import SessionKeeper.Token

/-!
Chains of tokens. Each token names the one that took its place, so the tokens of a session form
chains, each beginning with a token that no other names. A session whose current token has been
superseded has several.
-/

namespace SessionKeeper.Chain

/-- The tokens that can still be visited. -/
abbrev Unvisited := List Token

/-- Whether some token names the given one as its replacement. -/
def isReferenced (tokens : List Token) (id : Uuid) : Bool :=
  tokens.any fun t => t.replacedBy == some id

/-- The identifiers of the tokens that no token names. -/
def heads (tokens : List Token) : List Uuid :=
  (tokens.filter fun t => !isReferenced tokens t.id).map (·.id)

/-- The tokens that are left when the one with the given identifier is taken out. -/
def without (id : Uuid) (tokens : Unvisited) : Unvisited := tokens.filter fun t => t.id != id

theorem length_without_lt {id : Uuid} {tokens : Unvisited} {t : Token}
    (h : tokens.find? (fun t => t.id == id) = some t) :
    (without id tokens).length < tokens.length := by
  have hmem := List.mem_of_find?_eq_some h
  have hid : t.id = id := by simpa using List.find?_some h
  refine List.length_filter_lt_length_iff_exists.mpr ⟨t, hmem, ?_⟩
  simp [hid]

/-- The tokens from the given one on along the links, each visited once, and those left over. -/
def walk (id : Uuid) (tokens : Unvisited) : List Token × Unvisited :=
  match _h : tokens.find? fun t => t.id == id with
  | none => ([], tokens)
  | some t =>
    let rest := without id tokens
    match t.replacedBy with
    | none => ([t], rest)
    | some next =>
      let (visited, left) := walk next rest
      (t :: visited, left)
termination_by tokens.length
decreasing_by exact length_without_lt _h

/-- The chains that begin with the given tokens, one after the other. -/
def walkAll : List Uuid → Unvisited → List Token
  | [], _ => []
  | head :: more, tokens =>
    let (visited, left) := walk head tokens
    visited ++ walkAll more left

/-- Tokens ordered along their links, chain by chain in the order of their heads. Of two tokens
with one identifier the later counts. -/
def order (tokens : List Token) : List Token := walkAll (heads tokens) tokens.reverse

end SessionKeeper.Chain
