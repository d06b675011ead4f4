import SessionKeeper.Proofs.Store.Structure

/-!
# The outcome that an operation has to have

`Issued` and `Rotated` list what issuing and exchanging a token can come to, each with the checks
that decide for it. No two entries of a list have checks that hold together, so the checks alone
give the outcome: `issueToken_eq` and `rotateToken_eq` answer a request on one store from what is
known of another.
-/

namespace SessionKeeper

attribute [ext] Memory

/-- The identifier and the hash that a request brings for a new token. -/
def Store.Request.brings? : Store.Request → Option (Uuid × Hash)
  | .issueToken t _ _ => some (t.id, t.hash)
  | .rotateToken _ id hash _ _ => some (id, hash)
  | _ => none

namespace Memory

variable {m : Memory}

theorem Operation.Enters.brings {r : Store.Request} {u : Token} (h : (Operation.ask r).Enters u) :
    r.brings? = some (u.id, u.hash) := by
  cases r with
  | issueToken t policy now =>
    cases h
    rfl
  | rotateToken presented id hash now lifetime =>
    obtain ⟨session, hf⟩ := h
    obtain ⟨expiresAt, -, rfl⟩ := Token.fresh_eq_ok hf
    rfl
  | _ => cases h

theorem Issued.unique {t : Token} {policy : IssuePolicy} {now : Instant}
    {out out' : Outcome TokenIssue} (h : Issued m t policy now out)
    (h' : Issued m t policy now out') : out = out' := by
  -- off the diagonal some check holds and fails
  cases h <;> cases h' <;> simp_all [Active]

theorem Orderly.issueToken_eq (ho : m.Orderly) {t : Token} {policy : IssuePolicy} {now : Instant}
    {out : Outcome TokenIssue} (h : Issued m t policy now out) :
    m.issueToken t policy now = out :=
  (issueToken_issued ho t policy now).unique h

theorem Rotated.unique {presented hash : Hash} {id : Uuid} {now : Instant} {lifetime : Span}
    {out out' : Outcome TokenRotation} (h : Rotated m presented id hash now lifetime out)
    (h' : Rotated m presented id hash now lifetime out') : out = out' := by
  cases h <;> cases h' <;> simp_all [Active, Token.fresh]

theorem Orderly.rotateToken_eq (ho : m.Orderly) {presented hash : Hash} {id : Uuid}
    {now : Instant} {lifetime : Span} {out : Outcome TokenRotation}
    (h : Rotated m presented id hash now lifetime out) :
    m.rotateToken presented id hash now lifetime = out :=
  (rotateToken_rotated ho presented id hash now lifetime).unique h

end Memory

end SessionKeeper
