import BearerTrust.KeySource.Basic

namespace BearerTrust

/-- What was asked and what was answered, the latest last. -/
abbrev Exchanges := List (Url × Except RetrievalError Bytes)

def Exchanges.Hold (es : Exchanges) (url : Url) (ks : KeySet) : Prop :=
  ∃ body, (url, .ok body) ∈ es ∧ KeySet.parse? body = some ks

variable {σ τ : Type}

namespace Retriever

def recording (web : Retriever σ) : Retriever (σ × Exchanges) where
  retrieve url s :=
    ((web.retrieve url s.1).1, ((web.retrieve url s.1).2, s.2 ++ [(url, (web.retrieve url s.1).1)]))

def after (web : Retriever σ) (asked : List Url) (s : σ) : σ :=
  asked.foldl (fun s url => (web.retrieve url s).2) s

/-- From here on a place answers from a sequence, whatever else is asked: first with `answers 0`. -/
def Serves (web : Retriever σ) (url : Url) (answers : Nat → Except RetrievalError Bytes) (s : σ) :
    Prop :=
  ∀ asked, (web.retrieve url (web.after asked s)).1 = answers (asked.count url)

/-- From here on every place always gives the same answer. -/
def Steady (web : Retriever σ) (answers : Url → Except RetrievalError Bytes) (s : σ) : Prop :=
  ∀ url, web.Serves url (fun _ => answers url) s

/-- Asked for `url` in related states, two retrievers answer alike and are related again. -/
def Mirrors (R : σ → τ → Prop) (web : Retriever σ) (other : Retriever τ) (url : Url) : Prop :=
  ∀ s t, R s t → (web.retrieve url s).1 = (other.retrieve url t).1 ∧
    R (web.retrieve url s).2 (other.retrieve url t).2

def script (answers : Nat → Except RetrievalError Bytes) : Retriever Nat :=
  ⟨fun _ n => (answers n, n + 1)⟩

def constant (answer : Except RetrievalError Bytes) : Retriever Unit := ⟨fun _ _ => (answer, ())⟩

variable {web : Retriever σ} {url : Url} {s : σ} {answers : Nat → Except RetrievalError Bytes}

theorem Serves.answer (h : web.Serves url answers s) : (web.retrieve url s).1 = answers 0 := h []

theorem Serves.next (h : web.Serves url answers s) :
    web.Serves url (fun n => answers (n + 1)) (web.retrieve url s).2 := by
  intro asked
  have := h (url :: asked)
  rwa [List.count_cons_self] at this

theorem Serves.other (h : web.Serves url answers s) {u : Url} (hu : u ≠ url) :
    web.Serves url answers (web.retrieve u s).2 := by
  intro asked
  have := h (u :: asked)
  rwa [List.count_cons_of_ne hu] at this

theorem Steady.retrieve {answers : Url → Except RetrievalError Bytes} (h : web.Steady answers s)
    (u : Url) : web.Steady answers (web.retrieve u s).2 := by
  intro url
  by_cases hu : u = url
  · subst hu; exact (h u).next
  · exact (h url).other hu

theorem recording_mirrors (web : Retriever σ) (url : Url) :
    Mirrors (fun (s : σ) (t : σ × Exchanges) => s = t.1) web web.recording url := by
  rintro s t rfl
  exact ⟨rfl, rfl⟩

theorem script_mirrors (web : Retriever σ) (url : Url) (answers : Nat → Except RetrievalError Bytes) :
    Mirrors (fun s n => web.Serves url (fun k => answers (n + k)) s) web (script answers) url := by
  intro s n h
  refine ⟨h.answer, ?_⟩
  have := h.next
  simpa only [Nat.add_comm, Nat.add_left_comm, script] using this

end Retriever
end BearerTrust
