import BearerTrust.Proofs.JsonLeaves
import BearerTrust.Table
import Mathlib.Data.String.Basic

namespace BearerTrust

namespace Text

theorem utf8EncodeChar_append_lt {c d : Char} (h : c < d) (us vs : Bytes) :
    String.utf8EncodeChar c ++ us < String.utf8EncodeChar d ++ vs := by
  have hlt : c.val.toNat < d.val.toNat := h
  have hd : d.val.toNat < 0x110000 := by
    have hvalid := d.valid
    unfold UInt32.isValidChar Nat.isValidChar at hvalid
    omega
  unfold String.utf8EncodeChar
  generalize c.val.toNat = x at hlt
  generalize d.val.toNat = y at hlt hd
  -- The digits of both numbers in base 64.
  have hdigits (n : Nat) (hn : n < 0x110000) :
      n / 4096 = n / 64 / 64 ∧ n / 262144 % 8 = n / 64 / 64 / 64 := by
    omega
  obtain ⟨hx, hx'⟩ := hdigits x (Nat.lt_trans hlt hd)
  obtain ⟨hy, hy'⟩ := hdigits y hd
  have hcons (a b : Nat) (as bs : Bytes) (ha : a < 256) (hb : b < 256) :
      UInt8.ofNat a :: as < UInt8.ofNat b :: bs ↔ a < b ∨ a = b ∧ as < bs := by
    rw [List.cons_lt_cons_iff, UInt8.lt_iff_toNat_lt, ← UInt8.toNat_inj, UInt8.toNat_ofNat_of_lt' ha,
      UInt8.toNat_ofNat_of_lt' hb]
  dsimp only
  split_ifs <;> simp only [List.cons_append, List.nil_append] <;>
    simp (disch := omega) only [hcons, hx, hx', hy, hy'] <;> omega

theorem flatMap_utf8EncodeChar_lt {cs ds : List Char} (h : cs < ds) :
    cs.flatMap String.utf8EncodeChar < ds.flatMap String.utf8EncodeChar := by
  induction h with
  | @nil d ds =>
    rw [List.flatMap_nil, List.flatMap_cons]
    cases hd : String.utf8EncodeChar d with
    | nil => exact absurd hd String.utf8EncodeChar_ne_nil
    | cons => exact .nil
  | rel h =>
    rw [List.flatMap_cons, List.flatMap_cons]
    exact utf8EncodeChar_append_lt h _ _
  | @cons c cs ds h ih =>
    rw [List.flatMap_cons, List.flatMap_cons]
    exact List.append_left_lt ih

theorem utf8_lt {s t : String} (h : s < t) : utf8 s < utf8 t := by
  have hflat := flatMap_utf8EncodeChar_lt (String.lt_iff_toList_lt.1 h)
  rw [← utf8_ofList, ← utf8_ofList, String.ofList_toList, String.ofList_toList] at hflat
  exact hflat

end Text

namespace Table

variable {α : Type}

theorem mem_insertSorted {k : String} {v : α} {t : List (String × α)} {x : String × α}
    (h : x ∈ insertSorted k v t) : x = (k, v) ∨ x ∈ t := by
  induction t with
  | nil => exact .inl (List.mem_singleton.1 h)
  | cons e t ih =>
    obtain ⟨l, w⟩ := e
    unfold insertSorted at h
    split at h
    · exact (List.mem_cons.1 h).imp_right (List.mem_cons_of_mem _)
    · split at h
      · exact List.mem_cons.1 h
      · rcases List.mem_cons.1 h with rfl | h
        · exact .inr List.mem_cons_self
        · exact (ih h).imp_right (List.mem_cons_of_mem _)

theorem pairwise_insertSorted {t : List (String × α)}
    (h : t.Pairwise fun x y => Text.utf8 x.1 < Text.utf8 y.1) (k : String) (v : α) :
    (insertSorted k v t).Pairwise fun x y => Text.utf8 x.1 < Text.utf8 y.1 := by
  induction t with
  | nil => exact List.pairwise_singleton _ _
  | cons e t ih =>
    obtain ⟨l, w⟩ := e
    obtain ⟨hl, ht⟩ := List.pairwise_cons.1 h
    unfold insertSorted
    split
    · next hk =>
      subst hk
      exact List.pairwise_cons.2 ⟨hl, ht⟩
    · next hne =>
      split
      · next hlt =>
        have hlt := Text.utf8_lt hlt
        refine List.pairwise_cons.2 ⟨fun x hx => ?_, h⟩
        rcases List.mem_cons.1 hx with rfl | hx
        · exact hlt
        · exact List.lt_trans hlt (hl x hx)
      · next hnlt =>
        have hlt : Text.utf8 l < Text.utf8 k := Text.utf8_lt (lt_of_le_of_ne (not_lt.1 hnlt) (Ne.symm hne))
        refine List.pairwise_cons.2 ⟨fun x hx => ?_, ih ht⟩
        rcases mem_insertSorted hx with rfl | hx
        · exact hlt
        · exact hl x hx

end Table
end BearerTrust
