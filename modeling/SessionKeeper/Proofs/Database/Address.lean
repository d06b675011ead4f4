import Mathlib.Data.List.DropRight
import SessionKeeper.Database.Address

/-!
# What an address shows of its password

An address is divided behind its first `://`. In what stands behind it the login reaches up to the
last `@` and the name of the user up to the first colon, so every character of a password lies
between the two, whatever it is. Hence what is shown does not depend on the password
(`password_hidden`). Where there is no login, or no colon in it, an address is shown as it is, and
so is an address that has been masked before.
-/

namespace SessionKeeper.Database.Address

/-! ## Cuts at a character -/

section

variable {c : Char} {cs before behind : List Char}

theorem cutAtFirst_eq_none (h : c ∉ cs) : cutAtFirst c cs = none := by
  induction cs with
  | nil => rfl
  | cons x cs ih =>
    obtain ⟨hne, hcs⟩ := List.ne_and_not_mem_of_not_mem_cons h
    rw [cutAtFirst, if_neg hne.symm, ih hcs, Option.map_none]

theorem cutAtFirst_append (h : c ∉ before) :
    cutAtFirst c (before ++ c :: behind) = some (before, behind) := by
  induction before with
  | nil => rw [List.nil_append, cutAtFirst, if_pos rfl]
  | cons x before ih =>
    obtain ⟨hne, hbefore⟩ := List.ne_and_not_mem_of_not_mem_cons h
    rw [List.cons_append, cutAtFirst, if_neg hne.symm, ih hbefore, Option.map_some]

theorem cutAtLast_eq_none (h : c ∉ cs) : cutAtLast c cs = none := by
  rw [cutAtLast, cutAtFirst_eq_none (by simpa using h), Option.map_none]

theorem cutAtLast_append (h : c ∉ behind) :
    cutAtLast c (before ++ c :: behind) = some (before, behind) := by
  have hreverse : (before ++ c :: behind).reverse = behind.reverse ++ c :: before.reverse := by simp
  rw [cutAtLast, hreverse, cutAtFirst_append (by simpa using h)]
  simp

theorem exists_last (h : c ∈ cs) : ∃ before behind, cs = before ++ c :: behind ∧ c ∉ behind := by
  induction cs with
  | nil => cases h
  | cons x cs ih =>
    by_cases hcs : c ∈ cs
    · obtain ⟨before, behind, rfl, hbehind⟩ := ih hcs
      exact ⟨x :: before, behind, rfl, hbehind⟩
    · obtain rfl := (List.mem_cons.mp h).resolve_right hcs
      exact ⟨[], cs, rfl, hcs⟩

/-- The part of a text behind the last `@` in it, or the whole text. -/
def behindAt (cs : List Char) : List Char := cs.rtakeWhile (· ≠ '@')

theorem behindAt_eq_self (h : '@' ∉ cs) : behindAt cs = cs := by
  rw [behindAt, List.rtakeWhile_eq_self_iff]
  intro x hx
  simpa using fun he : x = '@' => h (he ▸ hx)

theorem behindAt_append (h : '@' ∉ behind) : behindAt (before ++ '@' :: behind) = behind := by
  have hall : ∀ x ∈ behind.reverse, decide (x ≠ '@') = true := by
    intro x hx
    simpa using fun he : x = '@' => h (he ▸ List.mem_reverse.mp hx)
  have hreverse : (before ++ '@' :: behind).reverse = behind.reverse ++ '@' :: before.reverse := by
    simp
  rw [behindAt, List.rtakeWhile, hreverse, List.takeWhile_append_of_pos hall,
    List.takeWhile_cons_of_neg (by simp), List.append_nil, List.reverse_reverse]

/-- The last `@` of a text that begins with one. -/
theorem exists_behindAt (cs : List Char) :
    ∃ before, '@' :: cs = before ++ '@' :: behindAt cs ∧ '@' ∉ behindAt cs := by
  obtain ⟨before, behind, hcs, hbehind⟩ := exists_last (List.mem_cons_self (a := '@') (l := cs))
  cases before with
  | nil =>
    obtain rfl := (List.cons.inj hcs).2
    rw [behindAt_eq_self hbehind]
    exact ⟨[], rfl, hbehind⟩
  | cons x before =>
    rw [List.cons_append] at hcs
    obtain ⟨rfl, rfl⟩ := List.cons.inj hcs
    rw [behindAt_append hbehind]
    exact ⟨'@' :: before, rfl, hbehind⟩

end

/-! ## What stands behind the scheme -/

section

variable {rest user password login host : List Char}

/-- What stands between the user and the host once the password is hidden. -/
theorem toList_stars : ":****@".toList = [':', '*', '*', '*', '*', '@'] := by decide

theorem maskRest_of_no_login (h : '@' ∉ rest) : maskRest rest = rest := by
  rw [maskRest, cutAtLast_eq_none h]

theorem maskRest_of_no_colon (hlogin : ':' ∉ login) (hhost : '@' ∉ host) :
    maskRest (login ++ '@' :: host) = login ++ '@' :: host := by
  simp only [maskRest, cutAtLast_append hhost, cutAtFirst_eq_none hlogin]

theorem maskRest_of_login (huser : ':' ∉ user) (hhost : '@' ∉ host) :
    maskRest (user ++ ':' :: password ++ '@' :: host) = user ++ ":****@".toList ++ host := by
  simp only [maskRest, cutAtLast_append hhost, cutAtFirst_append huser]

/-- The password reaches up to the last `@`, also where the host has one. -/
theorem maskRest_hides (huser : ':' ∉ user) (password host : List Char) :
    maskRest (user ++ ':' :: password ++ '@' :: host) =
      user ++ ":****@".toList ++ behindAt host := by
  obtain ⟨before, hhost, hnot⟩ := exists_behindAt host
  rw [hhost, ← List.append_assoc, List.append_assoc user, List.cons_append,
    maskRest_of_login huser hnot]

/-- What stands behind a scheme has no login, a login without a colon, or a login with one. -/
inductive Login : List Char → Prop where
  | none {rest : List Char} (h : '@' ∉ rest) : Login rest
  | bare {login host : List Char} (hlogin : ':' ∉ login) (hhost : '@' ∉ host) :
      Login (login ++ '@' :: host)
  | full {user password host : List Char} (huser : ':' ∉ user) (hhost : '@' ∉ host) :
      Login (user ++ ':' :: password ++ '@' :: host)

theorem login_cases (rest : List Char) : Login rest := by
  by_cases hat : '@' ∈ rest
  · obtain ⟨login, host, rfl, hhost⟩ := exists_last hat
    by_cases hcolon : ':' ∈ login
    · obtain ⟨user, password, rfl, huser⟩ := List.eq_append_cons_of_mem hcolon
      exact .full huser hhost
    · exact .bare hcolon hhost
  · exact .none hat

theorem maskRest_maskRest (rest : List Char) : maskRest (maskRest rest) = maskRest rest := by
  cases login_cases rest with
  | none h => rw [maskRest_of_no_login h, maskRest_of_no_login h]
  | bare hlogin hhost => rw [maskRest_of_no_colon hlogin hhost, maskRest_of_no_colon hlogin hhost]
  | @full user password host huser hhost =>
    have hstars : user ++ ":****@".toList ++ host =
        user ++ ':' :: ['*', '*', '*', '*'] ++ '@' :: host := by
      simp [toList_stars]
    rw [maskRest_of_login huser hhost, hstars, maskRest_of_login huser hhost, hstars]

end

/-! ## The scheme -/

section

variable {cs scheme rest : List Char}

/-- The mark behind a scheme. -/
def mark : List Char := [':', '/', '/']

/-- No mark stands further to the front of a text than one behind `scheme` would. -/
def FirstMark (scheme cs : List Char) : Prop :=
  ∀ before behind, cs = before ++ mark ++ behind → scheme.length ≤ before.length

/-- What stands behind the first mark does not matter to its being the first. -/
theorem FirstMark.congr (h : FirstMark scheme (scheme ++ mark ++ rest)) (rest' : List Char) :
    FirstMark scheme (scheme ++ mark ++ rest') := by
  intro before behind he
  by_contra hlt
  have hle : (before ++ mark).length ≤ (scheme ++ mark).length := by
    simp only [List.length_append]
    omega
  -- an earlier mark stands within `scheme ++ mark`
  obtain ⟨between, hbetween⟩ : before ++ mark <+: scheme ++ mark := by
    have hwithin : before ++ mark <+: scheme ++ mark ++ rest' := ⟨behind, he.symm⟩
    exact List.prefix_of_prefix_length_le hwithin (List.prefix_append ..) hle
  exact hlt (h before (between ++ rest) (by rw [← hbetween, List.append_assoc]))

theorem cutScheme_of_first (h : FirstMark scheme (scheme ++ mark ++ rest)) :
    cutScheme (scheme ++ mark ++ rest) = some (scheme ++ mark, rest) := by
  induction scheme with
  | nil => rfl
  | cons c scheme ih =>
    have htail : FirstMark scheme (scheme ++ mark ++ rest) := by
      intro before behind he
      have hle := h (c :: before) behind (by simp [he])
      simpa using hle
    have hnot : ∀ behind, c = ':' → scheme ++ mark ++ rest = '/' :: '/' :: behind → False := by
      intro behind hc he
      have hle := h [] behind (by simpa [hc, mark] using he)
      simp at hle
    have hcut : cutScheme (c :: (scheme ++ mark ++ rest)) = _ := cutScheme.eq_2 _ _ hnot
    rw [ih htail] at hcut
    exact hcut

theorem first_of_cutScheme (h : cutScheme cs = some (scheme, rest)) :
    ∃ name, scheme = name ++ mark ∧ cs = name ++ mark ++ rest ∧ FirstMark name cs := by
  fun_induction cutScheme cs generalizing scheme with
  | case1 rest' =>
    cases h
    exact ⟨[], rfl, rfl, fun _ _ _ => Nat.zero_le _⟩
  | case2 c cs hnot ih =>
    obtain ⟨⟨scheme', rest'⟩, hcut, he⟩ := Option.map_eq_some_iff.mp h
    cases he
    obtain ⟨name, rfl, rfl, hfirst⟩ := ih hcut
    refine ⟨c :: name, rfl, rfl, fun before behind hb => ?_⟩
    cases before with
    | nil =>
      obtain ⟨rfl, htail⟩ := List.cons.inj hb
      exact (hnot _ rfl htail).elim
    | cons x before =>
      have hle := hfirst before behind (List.cons.inj hb).2
      simpa using hle
  | case3 => cases h

theorem cutScheme_cons {c : Char} (h : c ≠ ':') :
    cutScheme (c :: cs) = (cutScheme cs).map fun (scheme, rest) => (c :: scheme, rest) :=
  cutScheme.eq_2 _ _ fun _ hc => absurd hc h

theorem cutScheme_tail {before behind : List Char} (h : cutScheme (before ++ behind) = none) :
    cutScheme behind = none := by
  induction before with
  | nil => exact h
  | cons c before ih =>
    refine ih ?_
    rw [List.cons_append, cutScheme.eq_def] at h
    split at h
    · cases h
    · rename_i he
      obtain ⟨rfl, rfl⟩ := List.cons.inj he
      exact Option.map_eq_none_iff.mp h
    · rename_i he
      cases he

theorem cutScheme_append_eq_none {before behind : List Char} (hbefore : ':' ∉ before) :
    cutScheme (before ++ behind) = none ↔ cutScheme behind = none := by
  induction before with
  | nil => rfl
  | cons c before ih =>
    obtain ⟨hne, hbefore⟩ := List.ne_and_not_mem_of_not_mem_cons hbefore
    rw [List.cons_append, cutScheme_cons hne.symm, Option.map_eq_none_iff, ih hbefore]

/-- Hiding a password makes no mark. -/
theorem cutScheme_maskRest (h : cutScheme cs = none) : cutScheme (maskRest cs) = none := by
  cases login_cases cs with
  | none hat => rwa [maskRest_of_no_login hat]
  | bare hlogin hhost => rwa [maskRest_of_no_colon hlogin hhost]
  | @full user password host huser hhost =>
    have htail : cutScheme host = none := by
      rw [List.append_cons] at h
      exact cutScheme_tail h
    rw [maskRest_of_login huser hhost, List.append_assoc, cutScheme_append_eq_none huser,
      toList_stars]
    simp [cutScheme, htail]

theorem cutScheme_of_unmarked (h : ∀ before behind, cs ≠ before ++ mark ++ behind) :
    cutScheme cs = none := by
  cases hcut : cutScheme cs with
  | none => rfl
  | some cut =>
    obtain ⟨name, -, he, -⟩ := first_of_cutScheme hcut
    exact absurd he (h name cut.2)

end

/-! ## Addresses -/

theorem toList_mark : "://".toList = mark := by decide

/-- The first `://` of an address stands directly behind the scheme. -/
def FirstScheme (scheme url : String) : Prop :=
  ∀ before behind, url = before ++ "://" ++ behind → scheme.length ≤ before.length

/-- What stands behind the first `://` of an address, or the whole of it if there is none. -/
inductive BehindScheme : String → String → Prop where
  | marked {scheme rest : String} (h : FirstScheme scheme (scheme ++ "://" ++ rest)) :
      BehindScheme (scheme ++ "://" ++ rest) rest
  | unmarked {url : String} (h : ∀ before behind, url ≠ before ++ "://" ++ behind) :
      BehindScheme url url

/-- There is no `@`, or no colon before the last one. -/
def NoPassword (rest : String) : Prop :=
  '@' ∉ rest.toList ∨ ∃ login host : String,
    rest = login ++ "@" ++ host ∧ '@' ∉ host.toList ∧ ':' ∉ login.toList

/-- An address with a login. -/
def withLogin (scheme user password host : String) : String :=
  scheme ++ "://" ++ (user ++ ":" ++ password ++ "@" ++ host)

theorem FirstScheme.firstMark {scheme rest : String}
    (h : FirstScheme scheme (scheme ++ "://" ++ rest)) :
    FirstMark scheme.toList (scheme.toList ++ mark ++ rest.toList) := by
  intro before behind he
  have hle := h (String.ofList before) (String.ofList behind) ?_
  · rw [String.length_toList]
    simpa using hle
  · apply String.toList_inj.mp
    simpa [toList_mark] using he

theorem mask_of_firstMark {scheme rest : String}
    (h : FirstMark scheme.toList (scheme.toList ++ mark ++ rest.toList)) :
    mask (scheme ++ "://" ++ rest) =
      scheme ++ "://" ++ String.ofList (maskRest rest.toList) := by
  have hlist : (scheme ++ "://" ++ rest).toList = scheme.toList ++ mark ++ rest.toList := by
    simp [toList_mark]
  apply String.toList_inj.mp
  rw [mask, hlist, cutScheme_of_first h]
  simp [toList_mark]

theorem mask_of_unmarked {url : String} (h : cutScheme url.toList = none) :
    mask url = String.ofList (maskRest url.toList) := by
  rw [mask, h]

theorem mask_withLogin {scheme user password host : String}
    (h : FirstMark scheme.toList
      (scheme.toList ++ mark ++ (user ++ ":" ++ password ++ "@" ++ host).toList))
    (huser : ':' ∉ user.toList) :
    mask (withLogin scheme user password host) =
      scheme ++ "://" ++ user ++ ":****@" ++ String.ofList (behindAt host.toList) := by
  have hrest : (user ++ ":" ++ password ++ "@" ++ host).toList =
      user.toList ++ ':' :: password.toList ++ '@' :: host.toList := by
    simp
  apply String.toList_inj.mp
  rw [withLogin, mask_of_firstMark h, hrest, maskRest_hides huser]
  simp

theorem maskRest_of_noPassword {rest : String} (h : NoPassword rest) :
    maskRest rest.toList = rest.toList := by
  obtain hat | ⟨login, host, rfl, hhost, hlogin⟩ := h
  · exact maskRest_of_no_login hat
  · have hrest : (login ++ "@" ++ host).toList = login.toList ++ '@' :: host.toList := by simp
    rw [hrest, maskRest_of_no_colon hlogin hhost]

theorem mask_of_noPassword {url rest : String} (hrest : BehindScheme url rest)
    (h : NoPassword rest) : mask url = url := by
  cases hrest with
  | marked hfirst =>
    rw [mask_of_firstMark hfirst.firstMark, maskRest_of_noPassword h, String.ofList_toList]
  | unmarked hno =>
    have hcut : cutScheme url.toList = none := by
      refine cutScheme_of_unmarked fun before behind he => ?_
      refine hno (String.ofList before) (String.ofList behind) (String.toList_inj.mp ?_)
      simpa [toList_mark] using he
    rw [mask_of_unmarked hcut, maskRest_of_noPassword h, String.ofList_toList]

theorem mask_mask (url : String) : mask (mask url) = mask url := by
  cases hcut : cutScheme url.toList with
  | none =>
    have hmask := mask_of_unmarked hcut
    have hagain : cutScheme (mask url).toList = none := by
      rw [hmask, String.toList_ofList]
      exact cutScheme_maskRest hcut
    rw [mask_of_unmarked hagain, hmask, String.toList_ofList, maskRest_maskRest]
  | some cut =>
    obtain ⟨scheme, rest⟩ := cut
    obtain ⟨name, rfl, hurl, hfirst⟩ := first_of_cutScheme hcut
    rw [hurl] at hfirst
    have hmask : (mask url).toList = name ++ mark ++ maskRest rest := by
      rw [mask, hcut, String.toList_ofList]
    have hagain := cutScheme_of_first (hfirst.congr (maskRest rest))
    apply String.toList_inj.mp
    rw [hmask, mask, hmask, hagain, String.toList_ofList, maskRest_maskRest]

/-- Behind the first `://` of an address a login with a colon is shown as the name of the user,
four stars and what stands behind the last `@`. So two addresses that differ in the password alone
are shown as the same text. An address without a password behind its scheme is shown as it is, and
to mask a text twice is to mask it once. -/
theorem password_hidden :
    (∀ scheme user password host, FirstScheme scheme (withLogin scheme user password host) →
      ':' ∉ user.toList →
      mask (withLogin scheme user password host) =
          scheme ++ "://" ++ user ++ ":****@" ++ String.ofList (behindAt host.toList) ∧
        ∀ password', mask (withLogin scheme user password' host) =
          mask (withLogin scheme user password host)) ∧
      (∀ url rest, BehindScheme url rest → NoPassword rest → mask url = url) ∧
      ∀ url, mask (mask url) = mask url := by
  refine ⟨fun scheme user password host hscheme huser => ?_,
    fun url rest => mask_of_noPassword, mask_mask⟩
  have hfirst := hscheme.firstMark
  refine ⟨mask_withLogin hfirst huser, fun password' => ?_⟩
  rw [mask_withLogin (hfirst.congr _) huser, mask_withLogin hfirst huser]

/-- A scheme without a colon stands before the first `://`, whatever stands behind it. -/
theorem firstScheme_of_no_colon {scheme : String} (h : ':' ∉ scheme.toList) (rest : String) :
    FirstScheme scheme (scheme ++ "://" ++ rest) := by
  intro before behind he
  have hlist : scheme.toList ++ mark ++ rest.toList = before.toList ++ mark ++ behind.toList := by
    simpa [toList_mark] using congrArg String.toList he
  by_contra hlt
  have hlength : before.toList.length < scheme.toList.length := by
    rw [String.length_toList, String.length_toList]
    omega
  have hcolon : ':' ∈ scheme.toList := by
    have hget : (scheme.toList ++ mark ++ rest.toList)[before.toList.length]? = some ':' := by
      rw [hlist]
      simp [mark]
    rw [List.append_assoc, List.getElem?_append_left hlength] at hget
    exact List.mem_of_getElem? hget
  exact h hcolon

/-- A password with an `@`, a colon and a mark of its own in it, another one of the same user, and
an address with no password. -/
theorem password_hidden_delimiters :
    mask (withLogin "postgres" "svc" "p@s:s://w" "db:5432/authvault") =
        "postgres://svc:****@db:5432/authvault" ∧
      mask (withLogin "postgres" "svc" "pässwort" "db:5432/authvault") =
        mask (withLogin "postgres" "svc" "p@s:s://w" "db:5432/authvault") ∧
      mask "postgres://svc@db:5432" = "postgres://svc@db:5432" := by
  have hfirst : ∀ rest, FirstScheme "postgres" ("postgres" ++ "://" ++ rest) :=
    firstScheme_of_no_colon (by decide)
  obtain ⟨hhidden, hno, -⟩ := password_hidden
  obtain ⟨hshown, hsame⟩ :=
    hhidden "postgres" "svc" "p@s:s://w" "db:5432/authvault" (hfirst _) (by decide)
  refine ⟨hshown.trans (by decide), hsame "pässwort", hno _ "svc@db:5432" ?_ ?_⟩
  · exact .marked (hfirst "svc@db:5432")
  · exact .inr ⟨"svc", "db:5432", rfl, by decide, by decide⟩

end SessionKeeper.Database.Address
