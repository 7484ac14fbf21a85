import BearerTrust.Client.Authentication
import BearerTrust.Proofs.RsaSigning
import BearerTrust.Proofs.TokenWriting

namespace BearerTrust

structure Asserts (clientId : String) (tokenUrl : Url) (now : Seconds) (ms : Json.Members) : Prop where
  issuer : Json.Members.get? "iss" ms = some (.string clientId)
  subject : Json.Members.get? "sub" ms = some (.string clientId)
  audience : Json.Members.get? "aud" ms = some (.string tokenUrl.text)
  issuedAt : Json.Members.get? "iat" ms = some (.number (.natural now))
  notBefore : Json.Members.get? "nbf" ms = some (.number (.natural now))
  expires : Json.Members.get? "exp" ms = some (.number (.natural (now + assertionLifetime)))

def assertedClaims (clientId : String) (tokenUrl : Url) (now : Seconds) (all : Json.Members) : Claims where
  issuer := some clientId
  subject := some clientId
  audience := [tokenUrl.text]
  expires := some (now + assertionLifetime)
  notBefore := some now
  issuedAt := some now
  all

theorem legible_assertionClaims (clientId : String) (tokenUrl : Url) (now : Seconds) (nonce : Bytes) :
    Json.Legible Json.deepest (assertionClaims clientId tokenUrl now nonce) := by
  refine .object ?_
  simp [Json.Legible.string, Json.Legible.natural]

theorem exists_assertionMembers (clientId : String) (tokenUrl : Url) (now : Seconds) (nonce : Bytes) :
    ∃ ms, (assertionClaims clientId tokenUrl now nonce).ordered = .object ms ∧
      Asserts clientId tokenUrl now ms := by
  refine ⟨_, rfl, ?_, ?_, ?_, ?_, ?_, ?_⟩
  · simp [Json.orderedMembers, Json.ordered, Json.ofMembers, Json.get?_insert]
  · simp [Json.orderedMembers, Json.ordered, Json.ofMembers, Json.get?_insert]
  · simp [Json.orderedMembers, Json.ordered, Json.ofMembers, Json.get?_insert]
  · simp [Json.orderedMembers, Json.ordered, Json.ofMembers, Json.get?_insert]
  · simp [Json.orderedMembers, Json.ordered, Json.ofMembers, Json.get?_insert]
  · simp [Json.orderedMembers, Json.ordered, Json.ofMembers, Json.get?_insert]

section

variable {ms : Json.Members} {clientId : String} {tokenUrl : Url} {now t skew : Seconds}

theorem Asserts.claims (h : Asserts clientId tokenUrl now ms) :
    Claims.ofMembers ms = .ok (assertedClaims clientId tokenUrl now ms) := by
  simp only [Claims.ofMembers, Claims.audienceClaim, Claims.textClaim, Claims.timeClaim, Claims.seconds?,
    h.issuer, h.subject, h.audience, h.issuedAt, h.notBefore, h.expires]
  rfl

theorem toNat_expiry_mod (now : Seconds) :
    (now + assertionLifetime).toNat = (now.toNat + 60) % 2 ^ 64 :=
  UInt64.toNat_add now assertionLifetime

theorem toNat_expiry (hnow : now.toNat ≤ 2 ^ 64 - 61) :
    (now + assertionLifetime).toNat = now.toNat + 60 := by
  rw [toNat_expiry_mod, Nat.mod_eq_of_lt (by omega)]

theorem Asserts.accepts_iff (h : Asserts clientId tokenUrl now ms)
    (hnow : now.toNat ≤ 2 ^ 64 - 61) :
    DefaultChecks.Accepts ⟨clientId, [tokenUrl.text], [], skew⟩
        (assertedClaims clientId tokenUrl now ms) t ↔
      now.toNat ≤ min (t.toNat + skew.toNat) (2 ^ 64 - 1) ∧ t.toNat - skew.toNat < now.toNat + 60 := by
  have hexpiry := toNat_expiry hnow
  constructor
  · intro hok
    have hunexpired := hok.times.unexpired _ rfl
    rw [hexpiry] at hunexpired
    exact ⟨hok.times.issued now rfl, hunexpired⟩
  · rintro ⟨hstarted, hunexpired⟩
    refine ⟨fun name hname _ => ?_, rfl, ⟨?_, ?_, ?_⟩, .inr (.inl ⟨tokenUrl.text, ?_, ?_⟩)⟩
    · have hhas {n : String} {x : Json} (hx : Json.Members.get? n ms = some x) (hnull : x ≠ .null) :
          (assertedClaims clientId tokenUrl now ms).Has n :=
        ⟨x, hx, hnull⟩
      simp only [List.mem_cons, List.not_mem_nil, or_false] at hname
      rcases hname with rfl | rfl | rfl | rfl | rfl | rfl
      · exact hhas h.subject nofun
      · exact hhas h.audience nofun
      · exact hhas h.issuer nofun
      · exact hhas h.issuedAt nofun
      · exact hhas h.expires nofun
      · exact hhas h.notBefore nofun
    · rintro _ ⟨⟩
      rw [hexpiry]
      exact hunexpired
    · rintro _ ⟨⟩
      exact hstarted
    · rintro _ ⟨⟩
      exact hstarted
    · exact List.mem_singleton_self _
    · exact List.mem_singleton_self _

end

theorem SigningKey.assertion_claims (k : SigningKey) (clientId : String) (tokenUrl : Url) (now : Seconds)
    (nonce : Bytes) :
    ∃ c ms, Compact.parse (k.assertion clientId tokenUrl now nonce) = .ok c ∧
      c.claims = .ok (assertedClaims clientId tokenUrl now ms) := by
  obtain ⟨ms, hms, hasserts⟩ := exists_assertionMembers clientId tokenUrl now nonce
  exact ⟨_, ms, Compact.parse_write _ _ _,
    Compact.claims_ofParts (legible_assertionClaims clientId tokenUrl now nonce) hms hasserts.claims⟩

theorem expiry_capped_iff {now : Seconds} :
    (now + assertionLifetime).toNat = min (now.toNat + 60) (2 ^ 64 - 1) ↔ now.toNat + 60 < 2 ^ 64 := by
  have hnow : now.toNat < 2 ^ 64 := now.toNat_lt
  rw [toNat_expiry_mod]
  omega

theorem le_expiry_iff {now : Seconds} : now ≤ now + assertionLifetime ↔ now.toNat + 60 < 2 ^ 64 := by
  have hnow : now.toNat < 2 ^ 64 := now.toNat_lt
  rw [UInt64.le_iff_toNat_le, toNat_expiry_mod]
  omega

/-- An assertion is issued and valid from the reading of the clock on. Where 64 bits leave a minute after
the reading it ends a minute later; in the last minute of the clock, and only there, it does not end at the
last second, but before it begins. -/
theorem SigningKey.assertion_times (k : SigningKey) (clientId : String) (tokenUrl : Url) (now : Seconds)
    (nonce : Bytes) (q : TokenRequest) :
    ((ClientAuth.privateKeyJwt clientId k).apply tokenUrl now nonce q).form =
        q.form ++ [("client_id", clientId), ("client_assertion_type", assertionType),
          ("client_assertion", k.assertion clientId tokenUrl now nonce)] ∧
      ∃ c claims expiry, Compact.parse (k.assertion clientId tokenUrl now nonce) = .ok c ∧
        c.claims = .ok claims ∧ claims.issuedAt = some now ∧ claims.notBefore = some now ∧
        claims.expires = some expiry ∧
        (expiry.toNat = min (now.toNat + 60) (2 ^ 64 - 1) ↔ now.toNat + 60 < 2 ^ 64) ∧
        (now ≤ expiry ↔ now.toNat + 60 < 2 ^ 64) := by
  obtain ⟨c, ms, hparse, hclaims⟩ := k.assertion_claims clientId tokenUrl now nonce
  exact ⟨rfl, c, _, _, hparse, hclaims, rfl, rfl, rfl, expiry_capped_iff, le_expiry_iff⟩

/-- An entry of a key set for the public half of a signing key. -/
structure SigningKey.Publishes (k : SigningKey) (j : Jwk) : Prop where
  key : j.key = k.key.publicKey
  id : j.id = k.keyId
  use : j.use ≠ some .encryption
  algorithm : ∀ a, j.algorithm = some a → a = .rs256

theorem SigningKey.Publishes.fits {k : SigningKey} {j : Jwk} (h : k.Publishes j) :
    ∃ score, KeySet.fit? k.keyId .rs256 j = some score := by
  obtain ⟨id, use, algorithm, key⟩ := j
  obtain ⟨-, hid, huse, halgorithm⟩ := h
  dsimp only at hid huse halgorithm
  rw [← hid]
  cases id <;> cases use with
  | none => cases algorithm <;> simp_all [KeySet.fit?]
  | some u => cases u <;> cases algorithm <;> simp_all [KeySet.fit?]

theorem SigningKey.Publishes.choose {k : SigningKey} {j : Jwk} (h : k.Publishes j) :
    KeySet.choose [j] k.keyId .rs256 = some j := by
  obtain ⟨score, hscore⟩ := h.fits
  simp [KeySet.choose, hscore, KeySet.better]

theorem KeySource.verificationKey_of_keys {σ : Type} {web : Retriever σ} {source : KeySource}
    {instant : Instant} {st st' : KeyState σ} {ks : KeySet} {id : Option String} {algorithm : Algorithm}
    {j : Jwk} (hkeys : keys web source instant st = .ok (.ok ks, st'))
    (hj : ks.choose id algorithm = some j) :
    verificationKey web source id algorithm instant st = .ok (.ok (some j), st') := by
  rw [verificationKey]
  refine bind_eq_ok_iff.2 ⟨_, hkeys, ?_⟩
  dsimp only
  rw [hj]

section

variable {σ : Type} {web : Retriever σ} {source : KeySource} {instant : Instant} {st st' : KeyState σ}

theorem Validator.validate_written {v : Validator} {k : SigningKey} {j : Jwk} {payload : Json}
    {ms : Json.Members} {claims : Claims} (hsound : k.key.Sound) (hj : k.Publishes j)
    (hkeys : KeySource.keys web v.keys instant st = .ok (.ok [j], st'))
    (hlegible : Json.Legible Json.deepest payload) (hread : payload.ordered = .object ms)
    (hclaims : Claims.ofMembers ms = .ok claims) (t : Seconds) :
    validate web v t instant (Compact.write ⟨.rs256, k.keyId⟩ payload k.key.sign) st =
      .ok ((v.checks.check claims t).map fun _ =>
        ⟨Compact.write ⟨.rs256, k.keyId⟩ payload k.key.sign, claims⟩, st') := by
  have hparse : Validator.parse (Compact.write ⟨.rs256, k.keyId⟩ payload k.key.sign) =
      .ok (Compact.ofParts ⟨.rs256, k.keyId⟩ payload k.key.sign) := by
    rw [Validator.parse, Compact.parse_write]
    rfl
  have hverified : Validator.verify j (Compact.ofParts ⟨.rs256, k.keyId⟩ payload k.key.sign) =
      .ok claims := by
    rw [Validator.verify, hj.key, Compact.signature_ofParts, hsound, if_pos rfl,
      Compact.claims_ofParts hlegible hread hclaims]
  have hkey := KeySource.verificationKey_of_keys hkeys hj.choose
  have hconclude (token : String) : v.conclude t token
      (Compact.ofParts ⟨.rs256, k.keyId⟩ payload k.key.sign) (.ok (some j)) =
        (v.checks.check claims t).map fun _ => ⟨token, claims⟩ := by
    rw [conclude, hverified]
    change (v.checks.check claims t >>= fun _ => Except.ok (⟨token, claims⟩ : Token)) = _
    cases v.checks.check claims t <;> rfl
  rw [validate_of_parse hparse, ← hconclude]
  exact congrArg (Except.map _) hkey

/-- What a client puts in the form of a token request is accepted by whoever has its public key, expects it
as issuer and the token endpoint as audience: not before it was made, and for a minute. -/
theorem SigningKey.assertion_accepted (k : SigningKey) (clientId : String) (tokenUrl : Url)
    (now : Seconds) (nonce : Bytes) (q : TokenRequest) (t skew : Seconds) {j : Jwk}
    (hnow : now.toNat ≤ 2 ^ 64 - 61) (hsound : k.key.Sound) (hj : k.Publishes j)
    (hkeys : KeySource.keys web source instant st = .ok (.ok [j], st')) :
    ((ClientAuth.privateKeyJwt clientId k).apply tokenUrl now nonce q).form =
        q.form ++ [("client_id", clientId), ("client_assertion_type", assertionType),
          ("client_assertion", k.assertion clientId tokenUrl now nonce)] ∧
      ∃ r, Validator.validate web ⟨source, .default ⟨clientId, [tokenUrl.text], [], skew⟩⟩ t instant
          (k.assertion clientId tokenUrl now nonce) st = .ok (r, st') ∧
        ((∃ token, r = .ok token) ↔
          now.toNat ≤ min (t.toNat + skew.toNat) (2 ^ 64 - 1) ∧ t.toNat - skew.toNat < now.toNat + 60) ∧
        ∀ token, r = .ok token → token.encoded = k.assertion clientId tokenUrl now nonce ∧
          token.claims.issuer = some clientId ∧ token.claims.subject = some clientId ∧
          token.claims.audience = [tokenUrl.text] ∧ token.claims.issuedAt = some now ∧
          token.claims.notBefore = some now := by
  obtain ⟨ms, hms, hasserts⟩ := exists_assertionMembers clientId tokenUrl now nonce
  have hvalidate := Validator.validate_written
    (v := ⟨source, .default ⟨clientId, [tokenUrl.text], [], skew⟩⟩) hsound hj hkeys
    (legible_assertionClaims clientId tokenUrl now nonce) hms hasserts.claims t
  rw [← SigningKey.assertion] at hvalidate
  refine ⟨rfl, _, hvalidate, ?_, ?_⟩
  · rw [← hasserts.accepts_iff hnow, ← DefaultChecks.check_ok_iff]
    simp only [map_eq_ok_iff]
    constructor
    · rintro ⟨_, ⟨⟩, hcheck, -⟩
      exact hcheck
    · intro hcheck
      exact ⟨_, (), hcheck, rfl⟩
  · intro token htoken
    obtain ⟨-, -, rfl⟩ := map_eq_ok_iff.1 htoken
    exact ⟨rfl, rfl, rfl, rfl, rfl, rfl⟩

end

namespace Sample

def signer : SigningKey := ⟨clientKey, some "k"⟩

/-- At the last second of the clock an assertion ends at the start of time. -/
theorem assertion_ended_before :
    ∃ c claims, Compact.parse (signer.assertion "id" place Seconds.last [1, 2]) = .ok c ∧
      c.claims = .ok claims ∧ claims.issuedAt = some Seconds.last ∧ claims.expires = some 59 ∧
      (59 : Seconds).toNat ≠ min (Seconds.last.toNat + 60) (2 ^ 64 - 1) ∧ (59 : Seconds) < Seconds.last := by
  obtain ⟨c, ms, hparse, hclaims⟩ := signer.assertion_claims "id" place Seconds.last [1, 2]
  exact ⟨c, _, hparse, hclaims, rfl, rfl, by decide, by decide⟩

def signerEntry : Jwk := { id := some "k", algorithm := some .rs256, key := clientKey.publicKey }

theorem signer_publishes : signer.Publishes signerEntry where
  key := rfl
  id := rfl
  use := nofun
  algorithm := by
    rintro _ ⟨⟩
    rfl

def signerSource : KeySource := ⟨place, some { lifespan := 900000 }⟩

def signerState : KeyState Unit := ⟨some ⟨[signerEntry], 0, 900000⟩, ()⟩

theorem assertion_accepted_at_once :
    ((1700000000 : Seconds).toNat ≤ 2 ^ 64 - 61 ∧ signer.key.Sound ∧ signer.Publishes signerEntry ∧
      KeySource.keys (.constant (.ok [])) signerSource 0 signerState =
        .ok (.ok [signerEntry], signerState)) ∧
    (∃ token, Validator.validate (.constant (.ok []))
        ⟨signerSource, .default ⟨"id", [place.text], [], 0⟩⟩ 1700000000 0
        (signer.assertion "id" place 1700000000 [1, 2]) signerState = .ok (.ok token, signerState) ∧
      token.claims.issuer = some "id" ∧ token.claims.audience = [place.text]) ∧
    ∀ token st, Validator.validate (.constant (.ok []))
        ⟨signerSource, .default ⟨"id", [place.text], [], 0⟩⟩ 1700000060 0
        (signer.assertion "id" place 1700000000 [1, 2]) signerState ≠ .ok (.ok token, st) := by
  have hnow : (1700000000 : Seconds).toNat ≤ 2 ^ 64 - 61 := by decide
  have hsound : signer.key.Sound := clientKey_genuine.sound
  have hkeys : KeySource.keys (.constant (.ok [])) signerSource 0 signerState =
      .ok (.ok [signerEntry], signerState) := rfl
  have haccepted (t : Seconds) := signer.assertion_accepted "id" place 1700000000 [1, 2] ⟨place, [], none⟩
    t 0 hnow hsound signer_publishes hkeys
  refine ⟨⟨hnow, hsound, signer_publishes, hkeys⟩, ?_, fun token st h => ?_⟩
  · obtain ⟨-, r, hr, hiff, hclaims⟩ := haccepted 1700000000
    obtain ⟨token, rfl⟩ := hiff.2 (by decide)
    obtain ⟨-, hissuer, -, haudience, -⟩ := hclaims token rfl
    exact ⟨token, hr, hissuer, haudience⟩
  · obtain ⟨-, r, hr, hiff, -⟩ := haccepted 1700000060
    cases hr.symm.trans h
    exact absurd (hiff.1 ⟨token, rfl⟩) (by decide)

end Sample
end BearerTrust
