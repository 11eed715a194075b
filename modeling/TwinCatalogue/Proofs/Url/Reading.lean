import Mathlib.Data.List.DropRight
import TwinCatalogue.Proofs.Text.Trim
import TwinCatalogue.Url.Reading

/-! Reading an address piece by piece. What stands behind a slash that ends the address of a site
adds segments to its path, a query and a fragment, and leaves everything before as it is. -/

namespace TwinCatalogue

namespace Text

variable {p : Char → Bool} {x : Char}

theorem dropWhile_append_cons (hx : p x = false) (xs ys : List Char) :
    (xs ++ x :: ys).dropWhile p = xs.dropWhile p ++ x :: ys := by
  induction xs with
  | nil => exact List.dropWhile_cons_of_neg (by simp [hx])
  | cons c xs ih =>
    by_cases hc : p c = true
    · rw [List.cons_append, List.dropWhile_cons_of_pos hc, ih, List.dropWhile_cons_of_pos hc]
    · rw [List.cons_append, List.dropWhile_cons_of_neg hc, List.dropWhile_cons_of_neg hc,
        List.cons_append]

theorem takeWhile_append_cons (hx : p x = false) (xs ys : List Char) :
    (xs ++ x :: ys).takeWhile p = xs.takeWhile p := by
  induction xs with
  | nil => exact List.takeWhile_cons_of_neg (by simp [hx])
  | cons c xs ih =>
    by_cases hc : p c = true
    · rw [List.cons_append, List.takeWhile_cons_of_pos hc, ih, List.takeWhile_cons_of_pos hc]
    · rw [List.cons_append, List.takeWhile_cons_of_neg hc, List.takeWhile_cons_of_neg hc]

theorem dropEndWhile_append_cons (hx : p x = false) (xs ys : List Char) :
    dropEndWhile p (xs ++ x :: ys) = xs ++ x :: dropEndWhile p ys := by
  have hreverse : (xs ++ x :: ys).reverse = ys.reverse ++ x :: xs.reverse := by simp
  rw [dropEndWhile, hreverse, dropWhile_append_cons hx, List.reverse_append, dropEndWhile]
  simp

end Text

namespace Url

variable {p : Char → Bool}

theorem splitAt_eq_splitOnP (p : Char → Bool) (cs : List Char) : splitAt p cs = cs.splitOnP p := by
  induction cs with
  | nil => rfl
  | cons c rest ih =>
    obtain ⟨first, later, hrest⟩ := List.exists_cons_of_ne_nil (List.splitOnP_ne_nil p rest)
    rw [splitAt, ih, List.splitOnP_cons_eq_if_modifyHead, hrest]
    by_cases hc : p c = true
    · simp [hc]
    · simp [hc]

section Cut

theorem cut_append {xs : List Char} (h : ∀ c ∈ xs, p c = false) (ys : List Char) :
    cut p (xs ++ ys) = (xs ++ (cut p ys).1, (cut p ys).2) := by
  have hxs : ∀ c ∈ xs, (!p c) = true := fun c hc => by simp [h c hc]
  rw [cut, cut, List.dropWhile_append_of_pos hxs, List.takeWhile_append_of_pos hxs]
  cases ys.dropWhile fun c => !p c with
  | nil => rfl
  | cons c after => rfl

theorem cut_append_cons {mark x : Char} {xs : List Char} (hx : x ≠ mark)
    (hxs : ∀ c ∈ xs, c ≠ mark) (ys : List Char) : cut (· == mark) (xs ++ x :: ys) =
      (xs ++ x :: (cut (· == mark) ys).1, (cut (· == mark) ys).2) := by
  have hall : ∀ c ∈ xs ++ [x], (c == mark) = false := by
    intro c hc
    rw [List.mem_append, List.mem_singleton] at hc
    rcases hc with hc | rfl
    · exact beq_eq_false_iff_ne.mpr (hxs c hc)
    · exact beq_eq_false_iff_ne.mpr hx
  simpa using cut_append hall ys

theorem cut_nil (p : Char → Bool) : cut p [] = ([], none) := rfl

theorem cut_of_forall {xs : List Char} (h : ∀ c ∈ xs, p c = false) : cut p xs = (xs, none) := by
  have hcut := cut_append h []
  rwa [List.append_nil, cut_nil, List.append_nil] at hcut

/-- Nothing is cut off only if there is nowhere to cut. -/
theorem forall_of_cut {xs : List Char} (h : (cut p xs).1 = xs ∨ (cut p xs).2 = none) :
    ∀ c ∈ xs, p c = false := by
  have hxs : ∀ c ∈ xs, (!p c) = true := by
    rw [cut] at h
    cases hdrop : xs.dropWhile fun c => !p c with
    | nil => exact List.dropWhile_eq_nil_iff.mp hdrop
    | cons c after =>
      rw [hdrop] at h
      obtain htake | hnone := h
      · exact List.takeWhile_eq_self_iff.mp htake
      · exact nomatch hnone
  simpa using hxs

theorem cut_fst_sublist (p : Char → Bool) (xs : List Char) : (cut p xs).1.Sublist xs := by
  rw [cut]
  cases xs.dropWhile fun c => !p c with
  | nil => exact List.Sublist.refl xs
  | cons c after => exact List.takeWhile_sublist _

theorem cut_fst_eq_self_iff {xs : List Char} :
    (cut p xs).1 = xs ↔ ∀ c ∈ xs, p c = false :=
  ⟨fun h => forall_of_cut (.inl h), fun h => by rw [cut_of_forall h]⟩

end Cut

section Segments

/-- The segments as they are written, before dot segments are resolved. -/
def rawSegments (cs : List Char) : List String := (splitAt isSlash cs).map (encoded inPath)

def settle (settled : List String) (segment : String) : List String :=
  if isDoubleDot segment then settled.tail
  else if isDot segment then settled
  else segment :: settled

theorem rawSegments_ne_nil (cs : List Char) : rawSegments cs ≠ [] := by
  rw [rawSegments, splitAt_eq_splitOnP]
  simp [List.splitOnP_ne_nil]

theorem rawSegments_append_slash (xs ys : List Char) :
    rawSegments (xs ++ '/' :: ys) = rawSegments xs ++ rawSegments ys := by
  rw [rawSegments, splitAt_eq_splitOnP, List.splitOnP_append_cons _ _ (by decide), List.map_append,
    rawSegments, rawSegments, splitAt_eq_splitOnP, splitAt_eq_splitOnP]

theorem resolveDots_cons (settled : List String) (segment : String) {rest : List String}
    (h : rest ≠ []) : resolveDots settled (segment :: rest) =
      resolveDots (settle settled segment) rest := by
  obtain ⟨next, rest, rfl⟩ := List.exists_cons_of_ne_nil h
  rw [resolveDots, settle]
  · by_cases hdouble : isDoubleDot segment = true
    · rw [if_pos hdouble, if_pos hdouble]
    · by_cases hdot : isDot segment = true
      · rw [if_neg hdouble, if_pos hdot, if_neg hdouble, if_pos hdot]
      · rw [if_neg hdouble, if_neg hdot, if_neg hdouble, if_neg hdot]
  · exact List.cons_ne_nil _ _

theorem resolveDots_append (settled lead : List String) {rest : List String} (h : rest ≠ []) :
    resolveDots settled (lead ++ rest) = resolveDots (lead.foldl settle settled) rest := by
  induction lead generalizing settled with
  | nil => rfl
  | cons segment lead ih =>
    rw [List.cons_append, resolveDots_cons settled segment (by simp [h]), ih, List.foldl_cons]

theorem segments_cons {c : Char} (h : isSlash c = true) (rest : List Char) :
    segments (c :: rest) = resolveDots [] (rawSegments rest) := by
  show resolveDots [] (rawSegments (if isSlash c = true then rest else c :: rest)) = _
  rw [if_pos h]

/-- Behind a path that begins with a slash, if it is not empty, the segments of what follows a
further slash are resolved against its own. -/
theorem exists_segments_append {xs : List Char} (h : ∀ c ∈ xs.head?, isSlash c = true) :
    ∃ settled, ∀ ys, segments (xs ++ '/' :: ys) = resolveDots settled (rawSegments ys) := by
  cases xs with
  | nil => exact ⟨[], fun ys => rfl⟩
  | cons c rest =>
    refine ⟨(rawSegments rest).foldl settle [], fun ys => ?_⟩
    rw [← resolveDots_append [] _ (rawSegments_ne_nil ys), ← rawSegments_append_slash,
      List.cons_append, segments_cons (h c rfl)]

theorem resolveDots_rawSegments_nil (settled : List String) :
    resolveDots settled (rawSegments []) = settled.reverse ++ [""] := by
  have hraw : rawSegments [] = [""] := rfl
  have hdouble : ¬ isDoubleDot "" = true := by decide
  have hdot : ¬ isDot "" = true := by decide
  rw [hraw, resolveDots, if_neg hdouble, if_neg hdot, List.reverse_cons]

end Segments

section Place

/-- What an address says before its path. -/
def place (scheme : Scheme) (authority : List Char) : Except UrlFault Url := do
  let (credentials, hostAndPort) := cutLast (· == '@') authority
  let (hostText, portText) := cutPort false hostAndPort
  let host ← Host.parse hostText
  let port ← portNumber scheme portText
  let (user, password) := userAndPassword credentials
  return {
    scheme := scheme
    user := user
    password := password
    host := host
    port := port
    path := []
    query := none
    fragment := none }

/-- An address with a path, a query and a fragment. -/
def leadingTo (u : Url) (path : List String) (query fragment : Option (List Char)) : Url :=
  { u with
    path := path
    query := query.map (encoded inQuery)
    fragment := fragment.map (encoded inFragment) }

theorem ofAuthority_of_cut {scheme : Scheme} {cs before address : List Char}
    {query fragment : Option (List Char)} (hfragment : cut (· == '#') cs = (before, fragment))
    (hquery : cut (· == '?') before = (address, query)) :
    ofAuthority scheme cs = (place scheme (address.takeWhile fun c => !isSlash c)).map fun u =>
      leadingTo u (segments (address.dropWhile fun c => !isSlash c)) query fragment := by
  rw [ofAuthority, place, hfragment]
  simp only [hquery, bind, Except.bind, pure, Except.pure]
  cases Host.parse (cutPort false (cutLast (· == '@')
    (address.takeWhile fun c => !isSlash c)).2).1 with
  | error fault => rfl
  | ok host =>
    cases portNumber scheme (cutPort false (cutLast (· == '@')
      (address.takeWhile fun c => !isSlash c)).2).2 with
    | error fault => rfl
    | ok port => rfl

/-- What an address adds to that of a site behind its last slash. -/
def below (site : Url) (tail : List Char) : Url :=
  let before := cut (· == '#') tail
  let address := cut (· == '?') before.1
  leadingTo site (resolveDots site.path.dropLast.reverse (rawSegments address.1)) address.2 before.2

/-- The characters that count behind an address with a slash at its end. -/
def trailing (tail : List Char) : List Char :=
  (Text.dropEndWhile (·.toNat ≤ 32) tail).filter fun c => !"\t\n\r".toList.contains c

variable {site : Url} {scheme : Scheme} {front tail : List Char}

/-- Without a query and a fragment nothing is cut off, and the path is all that follows the
place. -/
theorem exists_place {cs : List Char} (h : ofAuthority scheme cs = .ok site)
    (hquery : site.query = none) (hfragment : site.fragment = none) :
    (∀ c ∈ cs, c ≠ '#' ∧ c ≠ '?') ∧ ∃ u, place scheme (cs.takeWhile fun c => !isSlash c) = .ok u ∧
      site = leadingTo u (segments (cs.dropWhile fun c => !isSlash c)) none none := by
  cases hbefore : cut (· == '#') cs with
  | mk before fragment =>
    cases haddress : cut (· == '?') before with
    | mk address query =>
      rw [ofAuthority_of_cut hbefore haddress] at h
      cases hplace : place scheme (address.takeWhile fun c => !isSlash c) with
      | error fault =>
        rw [hplace] at h
        exact nomatch h
      | ok u =>
        rw [hplace] at h
        obtain rfl := Except.ok.inj h
        have hhash : ∀ c ∈ cs, (c == '#') = false :=
          forall_of_cut (.inr (by rw [hbefore]; exact Option.map_eq_none_iff.mp hfragment))
        rw [cut_of_forall hhash] at hbefore
        obtain ⟨rfl, rfl⟩ := Prod.mk.inj hbefore
        have hmark : ∀ c ∈ cs, (c == '?') = false :=
          forall_of_cut (.inr (by rw [haddress]; exact Option.map_eq_none_iff.mp hquery))
        rw [cut_of_forall hmark] at haddress
        obtain ⟨rfl, rfl⟩ := Prod.mk.inj haddress
        exact ⟨fun c hc => ⟨by simpa using hhash c hc, by simpa using hmark c hc⟩, u, hplace, rfl⟩

theorem ofAuthority_append (h : ofAuthority scheme (front ++ ['/']) = .ok site)
    (hquery : site.query = none) (hfragment : site.fragment = none) (tail : List Char) :
    ofAuthority scheme (front ++ '/' :: tail) = .ok (site.below tail) := by
  obtain ⟨hplain, u, hplace, hsite⟩ := exists_place h hquery hfragment
  have hfront : ∀ c ∈ front, c ≠ '#' ∧ c ≠ '?' := fun c hc => hplain c (List.mem_append_left _ hc)
  have hslash : (fun c => !isSlash c) '/' = false := by decide
  have hhead : ∀ c ∈ (front.dropWhile fun c => !isSlash c).head?, isSlash c = true := by
    intro c hc
    have hnot := List.head?_dropWhile_not (fun c => !isSlash c) front
    rw [hc] at hnot
    simpa using hnot
  obtain ⟨settled, hsegments⟩ := exists_segments_append hhead
  have hpath : site.path = settled.reverse ++ [""] := by
    rw [hsite, leadingTo, Text.dropWhile_append_cons hslash, hsegments, resolveDots_rawSegments_nil]
  rw [Text.takeWhile_append_cons hslash] at hplace
  rw [ofAuthority_of_cut
      (cut_append_cons (by decide) (fun c hc => (hfront c hc).1) tail)
      (cut_append_cons (by decide) (fun c hc => (hfront c hc).2) _),
    Text.takeWhile_append_cons hslash, Text.dropWhile_append_cons hslash, hsegments, hplace, below,
    hpath, List.dropLast_concat, List.reverse_reverse, hsite]
  rfl

end Place

section Text

theorem exists_concat_of_suffix {xs ys : List Char} {x : Char} (h : xs <:+ ys ++ [x])
    (hxs : xs ≠ []) : ∃ zs, xs = zs ++ [x] := by
  obtain ⟨lead, hlead⟩ := h
  obtain rfl | ⟨zs, y, rfl⟩ := List.eq_nil_or_concat xs
  · exact absurd rfl hxs
  · rw [List.concat_eq_append, ← List.append_assoc] at hlead
    obtain ⟨-, hy⟩ := List.append_inj' hlead rfl
    exact ⟨zs, by rw [List.concat_eq_append, hy]⟩

theorem relevant_append (base : String) (tail : List Char) : ∃ front,
    relevant (base ++ "/") = front ++ ['/'] ∧
      relevant (base ++ "/" ++ String.ofList tail) = front ++ '/' :: trailing tail := by
  have hslash : (fun c : Char => decide (c.toNat ≤ 32)) '/' = false := by decide
  have hstrip : ∀ ys : List Char, Text.stripWhile (·.toNat ≤ 32) (base.toList ++ '/' :: ys) =
      base.toList.dropWhile (·.toNat ≤ 32) ++ '/' :: Text.dropEndWhile (·.toNat ≤ 32) ys := by
    intro ys
    rw [Text.stripWhile, Text.dropWhile_append_cons hslash, Text.dropEndWhile_append_cons hslash]
  have hbase : (base ++ "/").toList = base.toList ++ '/' :: [] := by simp
  have htail : (base ++ "/" ++ String.ofList tail).toList = base.toList ++ '/' :: tail := by simp
  refine ⟨(base.toList.dropWhile (·.toNat ≤ 32)).filter fun c => !"\t\n\r".toList.contains c, ?_, ?_⟩
  · rw [relevant, hbase, hstrip, List.filter_append]
    rfl
  · rw [relevant, htail, hstrip, List.filter_append]
    rfl

def inScheme (c : Char) : Bool := c.isAlphanum || c == '+' || c == '-' || c == '.'

/-- A scheme is a word that begins with a letter, in front of a colon. -/
theorem scheme?_eq_some_iff {cs rest : List Char} {name : String} :
    scheme? cs = some (name, rest) ↔ ∃ c word, c.isAlpha = true ∧
      (∀ d ∈ c :: word, inScheme d = true) ∧ cs = c :: word ++ ':' :: rest ∧
        name = Text.lowerAscii (String.ofList (c :: word)) := by
  constructor
  · intro h
    unfold scheme? at h
    split at h
    · exact nomatch h
    · rename_i c cs
      dsimp only at h
      split at h
      · rename_i after hafter
        by_cases hc : c.isAlpha = true
        · rw [if_pos hc] at h
          have hpart : inScheme c = true := by simp [inScheme, Char.isAlphanum, hc]
          have hdrop : (c :: cs).dropWhile inScheme = ':' :: after := hafter
          have htake : (c :: cs).takeWhile inScheme = c :: cs.takeWhile inScheme :=
            List.takeWhile_cons_of_pos hpart
          have hcs := List.takeWhile_append_dropWhile (p := inScheme) (l := c :: cs)
          obtain ⟨hname, rfl⟩ := Prod.mk.inj (Option.some.inj h)
          refine ⟨c, cs.takeWhile inScheme, hc, ?_, ?_, ?_⟩
          · rw [← htake]
            exact fun d hd => List.mem_takeWhile_imp hd
          · rw [← htake, ← hdrop, hcs]
          · rw [← htake, ← hname]
            rfl
        · rw [if_neg hc] at h
          exact nomatch h
      · exact nomatch h
  · rintro ⟨c, word, hc, hword, rfl, rfl⟩
    have hcolon : ¬ inScheme ':' = true := by decide
    have hdrop : (c :: word ++ ':' :: rest).dropWhile inScheme = ':' :: rest := by
      rw [List.dropWhile_append_of_pos hword, List.dropWhile_cons_of_neg hcolon]
    have htake : (c :: word ++ ':' :: rest).takeWhile inScheme = c :: word := by
      rw [List.takeWhile_append_of_pos hword, List.takeWhile_cons_of_neg hcolon, List.append_nil]
    unfold scheme?
    split
    · rename_i hnil
      exact absurd hnil (by simp)
    · rename_i d cs hcs
      obtain ⟨rfl, -⟩ := List.cons.inj hcs
      dsimp only
      split
      · rename_i after hafter
        obtain ⟨-, rfl⟩ := List.cons.inj (hdrop.symm.trans hafter)
        rw [if_pos hc]
        exact congrArg (fun word => some (Text.lowerAscii (String.ofList word), rest)) htake
      · rename_i hother
        exact absurd hdrop (hother _)

theorem scheme?_append {cs rest : List Char} {name : String} (h : scheme? cs = some (name, rest))
    (tail : List Char) : scheme? (cs ++ tail) = some (name, rest ++ tail) ∧ rest <:+ cs := by
  obtain ⟨c, word, hc, hword, rfl, hname⟩ := scheme?_eq_some_iff.mp h
  refine ⟨scheme?_eq_some_iff.mpr ⟨c, word, hc, hword, ?_, hname⟩, ⟨c :: word ++ [':'], by simp⟩⟩
  simp

/-- What follows the slash behind the address of a site is read against it. -/
theorem parse_append {base : String} (h : parse (base ++ "/") = .ok site)
    (hquery : site.query = none) (hfragment : site.fragment = none) (tail : List Char) :
    parse (base ++ "/" ++ String.ofList tail) = .ok (site.below (trailing tail)) := by
  obtain ⟨front, hfront, hall⟩ := relevant_append base tail
  rw [parse, hfront] at h
  cases hscheme : scheme? (front ++ ['/']) with
  | none =>
    rw [hscheme] at h
    exact nomatch h
  | some found =>
    obtain ⟨name, rest⟩ := found
    rw [hscheme] at h
    dsimp only at h
    obtain ⟨hscheme', hsuffix⟩ := scheme?_append hscheme (trailing tail)
    rw [List.append_assoc, List.singleton_append] at hscheme'
    rw [parse, hall, hscheme']
    dsimp only
    have hauthority : rest.dropWhile isSlash ≠ [] := by
      intro hnil
      have hfault : ∀ scheme, ofAuthority scheme [] = .error .emptyHost := fun scheme => rfl
      rw [hnil, hfault, hfault] at h
      by_cases hhttp : name = "http"
      · rw [if_pos hhttp] at h
        exact nomatch h
      · by_cases hhttps : name = "https"
        · rw [if_neg hhttp, if_pos hhttps] at h
          exact nomatch h
        · rw [if_neg hhttp, if_neg hhttps] at h
          exact nomatch h
    obtain ⟨authority, hconcat⟩ :=
      exists_concat_of_suffix ((List.dropWhile_suffix isSlash).trans hsuffix) hauthority
    have hdrop : (rest ++ trailing tail).dropWhile isSlash = authority ++ '/' :: trailing tail := by
      rw [List.dropWhile_append, hconcat]
      simp
    rw [hconcat] at h
    rw [hdrop]
    by_cases hhttp : name = "http"
    · rw [if_pos hhttp] at h ⊢
      exact ofAuthority_append h hquery hfragment _
    · by_cases hhttps : name = "https"
      · rw [if_neg hhttp, if_pos hhttps] at h ⊢
        exact ofAuthority_append h hquery hfragment _
      · rw [if_neg hhttp, if_neg hhttps] at h
        exact nomatch h

end Text

end Url

end TwinCatalogue
