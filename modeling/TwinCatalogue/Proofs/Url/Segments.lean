import TwinCatalogue.Proofs.Url.Percent
import TwinCatalogue.Proofs.Url.Reading

/-! What a text says as a path. Nothing that reading an address does to a path makes its decoded
bytes longer, and everything that changes them makes them shorter; so a text is read as its own
segments only if there is nothing in it to resolve, to decode or to cut off. -/

namespace TwinCatalogue

namespace Url

open Text (utf8OfChars)

variable {cs xs ys : List Char} {segs settled : List String} {s : String}

section Pieces

variable {p q : Char → Bool}

/-- The pieces between the characters of two classes are the same if the classes are, in the
text. -/
theorem splitOnP_eq_iff : xs.splitOnP p = xs.splitOnP q ↔ ∀ c ∈ xs, p c = q c := by
  induction xs with
  | nil => simp
  | cons c rest ih =>
    obtain ⟨first, later, hp⟩ := List.exists_cons_of_ne_nil (List.splitOnP_ne_nil p rest)
    obtain ⟨first', later', hq⟩ := List.exists_cons_of_ne_nil (List.splitOnP_ne_nil q rest)
    rw [List.forall_mem_cons, ← ih, List.splitOnP_cons_eq_if_modifyHead,
      List.splitOnP_cons_eq_if_modifyHead, hp, hq]
    by_cases hpc : p c = true
    · by_cases hqc : q c = true
      · simp [hpc, hqc]
      · simp [hpc, hqc]
    · by_cases hqc : q c = true
      · simp [hpc, hqc]
      · simp [hpc, hqc]

/-- As many bytes as the text has, with one before each piece. -/
theorem length_pieces (hp : ∀ c, p c = true → (String.utf8EncodeChar c).length = 1)
    (xs : List Char) :
    ((xs.splitOnP p).flatMap fun piece => 47 :: utf8OfChars piece).length =
      (utf8OfChars xs).length + 1 := by
  induction xs with
  | nil => rfl
  | cons c rest ih =>
    rw [List.splitOnP_cons_eq_if_modifyHead, Text.utf8OfChars_cons, List.length_append]
    by_cases hc : p c = true
    · have hempty : (47 :: utf8OfChars []).length = 1 := rfl
      rw [if_pos hc, List.flatMap_cons, List.length_append, ih, hempty, hp c hc]
      omega
    · obtain ⟨first, later, hrest⟩ := List.exists_cons_of_ne_nil (List.splitOnP_ne_nil p rest)
      rw [hrest, List.flatMap_cons, List.length_append, List.length_cons] at ih
      rw [if_neg hc, hrest, List.modifyHead_cons, List.flatMap_cons, List.length_append,
        List.length_cons, Text.utf8OfChars_cons, List.length_append]
      omega

/-- Decoding shortens the pieces, unless there are no escapes. -/
theorem length_decode_pieces (pieces : List (List Char)) :
    (pieces.flatMap fun piece => 47 :: Percent.decode piece).length ≤
        (pieces.flatMap fun piece => 47 :: utf8OfChars piece).length ∧
      ((∃ piece ∈ pieces, Percent.Escapes piece) →
        (pieces.flatMap fun piece => 47 :: Percent.decode piece).length <
          (pieces.flatMap fun piece => 47 :: utf8OfChars piece).length) := by
  induction pieces with
  | nil =>
    refine ⟨le_rfl, ?_⟩
    rintro ⟨piece, hpiece, -⟩
    exact absurd hpiece List.not_mem_nil
  | cons piece pieces ih =>
    obtain ⟨hle, hlt⟩ := Percent.length_decode piece
    rw [List.flatMap_cons, List.flatMap_cons, List.length_append, List.length_append,
      List.length_cons, List.length_cons]
    refine ⟨by omega, ?_⟩
    rintro ⟨escaped, hmem, hescapes⟩
    rcases List.mem_cons.mp hmem with rfl | hmem
    · have hfirst := hlt hescapes
      omega
    · have hlater := ih.2 ⟨escaped, hmem, hescapes⟩
      omega

end Pieces

section Dots

/-- A segment that says where to go instead of naming something. -/
def dots (s : String) : Bool := isDot s || isDoubleDot s

theorem toList_of_lowerAscii {word : String} (h : Text.lowerAscii s = word) :
    s.toList.map Char.toLower = word.toList := by
  rw [← h, Text.lowerAscii, String.toList_ofList]

theorem decode_of_lower_dot {rest : List Char} (h : xs.map Char.toLower = '.' :: rest) :
    ∃ ys, ys.map Char.toLower = rest ∧ Percent.decode xs = 46 :: Percent.decode ys := by
  obtain ⟨c, ys, rfl, hc, hys⟩ := List.map_eq_cons_iff.mp h
  obtain rfl := Text.eq_of_toLower_eq hc (by decide)
  exact ⟨ys, hys, Percent.decode_cons fun hpercent => absurd hpercent (by decide)⟩

theorem decode_of_lower_escape {rest : List Char}
    (h : xs.map Char.toLower = '%' :: '2' :: 'e' :: rest) :
    ∃ ys, ys.map Char.toLower = rest ∧ Percent.decode xs = 46 :: Percent.decode ys := by
  obtain ⟨c, xs, rfl, hc, hxs⟩ := List.map_eq_cons_iff.mp h
  obtain ⟨a, xs, rfl, ha, hxs⟩ := List.map_eq_cons_iff.mp hxs
  obtain ⟨b, ys, rfl, hb, hys⟩ := List.map_eq_cons_iff.mp hxs
  obtain rfl := Text.eq_of_toLower_eq hc (by decide)
  obtain rfl := Text.eq_of_toLower_eq ha (by decide)
  have hhigh : Percent.digit? '2' = some 2 := by decide
  have hlow : Percent.digit? b = some 14 := by
    rcases Text.toLower_eq_self_or b with hself | ⟨hupper, -, hnat⟩
    · rw [← hself, hb]
      decide
    · rw [hb] at hnat
      have hlower : 'e'.toNat = 'E'.toNat + 32 := by decide
      have hb : b = 'E' := Char.toNat_inj.mp (by omega)
      rw [hb]
      decide
  exact ⟨ys, hys, Percent.decode_escape hhigh hlow ys⟩

theorem decode_of_lower_nil (h : xs.map Char.toLower = []) : Percent.decode xs = [] := by
  rw [List.map_eq_nil_iff.mp h, Percent.decode]

theorem decode_of_isDot (h : isDot s = true) : Percent.decode s.toList = [46] := by
  have hwords : Text.lowerAscii s = "." ∨ Text.lowerAscii s = "%2e" := by simpa [isDot] using h
  rcases hwords with hword | hword
  · obtain ⟨ys, hys, hdecode⟩ := decode_of_lower_dot (toList_of_lowerAscii hword)
    rw [hdecode, decode_of_lower_nil hys]
  · obtain ⟨ys, hys, hdecode⟩ := decode_of_lower_escape (toList_of_lowerAscii hword)
    rw [hdecode, decode_of_lower_nil hys]

theorem decode_of_isDoubleDot (h : isDoubleDot s = true) :
    Percent.decode s.toList = [46, 46] := by
  have hwords : Text.lowerAscii s = ".." ∨ Text.lowerAscii s = ".%2e" ∨
      Text.lowerAscii s = "%2e." ∨ Text.lowerAscii s = "%2e%2e" := by
    simpa [isDoubleDot] using h
  rcases hwords with hword | hword | hword | hword
  · obtain ⟨ys, hys, hdecode⟩ := decode_of_lower_dot (toList_of_lowerAscii hword)
    obtain ⟨zs, hzs, hdecode'⟩ := decode_of_lower_dot hys
    rw [hdecode, hdecode', decode_of_lower_nil hzs]
  · obtain ⟨ys, hys, hdecode⟩ := decode_of_lower_dot (toList_of_lowerAscii hword)
    obtain ⟨zs, hzs, hdecode'⟩ := decode_of_lower_escape hys
    rw [hdecode, hdecode', decode_of_lower_nil hzs]
  · obtain ⟨ys, hys, hdecode⟩ := decode_of_lower_escape (toList_of_lowerAscii hword)
    obtain ⟨zs, hzs, hdecode'⟩ := decode_of_lower_dot hys
    rw [hdecode, hdecode', decode_of_lower_nil hzs]
  · obtain ⟨ys, hys, hdecode⟩ := decode_of_lower_escape (toList_of_lowerAscii hword)
    obtain ⟨zs, hzs, hdecode'⟩ := decode_of_lower_escape hys
    rw [hdecode, hdecode', decode_of_lower_nil hzs]

/-- The bytes of a path, each segment behind a slash. -/
def unescaped (segs : List String) : List UInt8 :=
  segs.flatMap fun s => 47 :: Percent.decode s.toList

theorem unescaped_append (segs later : List String) :
    unescaped (segs ++ later) = unescaped segs ++ unescaped later := List.flatMap_append

theorem length_unescaped_cons (s : String) (segs : List String) : (unescaped (s :: segs)).length =
    (Percent.decode s.toList).length + 1 + (unescaped segs).length := by
  rw [unescaped, List.flatMap_cons, List.length_append, List.length_cons]
  rfl

theorem length_unescaped_reverse (segs : List String) :
    (unescaped segs.reverse).length = (unescaped segs).length := by
  induction segs with
  | nil => rfl
  | cons s segs ih =>
    rw [List.reverse_cons, unescaped_append, List.length_append, ih, length_unescaped_cons,
      length_unescaped_cons]
    have hnil : (unescaped []).length = 0 := rfl
    omega

theorem length_unescaped_le {later : List String} (h : segs.Sublist later) :
    (unescaped segs).length ≤ (unescaped later).length := (h.flatMap _).length_le

theorem length_decode_of_dots (h : dots s = true) : 0 < (Percent.decode s.toList).length := by
  rw [dots, Bool.or_eq_true] at h
  rcases h with h | h
  · rw [decode_of_isDot h]
    decide
  · rw [decode_of_isDoubleDot h]
    decide

theorem settle_of_dots (h : dots s = true) (settled : List String) :
    (settle settled s).Sublist settled := by
  rw [dots, Bool.or_eq_true] at h
  rw [settle]
  by_cases hdouble : isDoubleDot s = true
  · rw [if_pos hdouble]
    exact List.tail_sublist settled
  · rw [if_neg hdouble, if_pos (h.resolve_right hdouble)]

theorem settle_of_not_dots (h : dots s = false) (settled : List String) :
    settle settled s = s :: settled := by
  rw [dots, Bool.or_eq_false_iff] at h
  rw [settle, h.1, h.2]
  rfl

theorem resolveDots_singleton (settled : List String) (s : String) : resolveDots settled [s] =
    if dots s = true then (settle settled s).reverse ++ [""] else settled.reverse ++ [s] := by
  rw [resolveDots, settle, dots]
  by_cases hdouble : isDoubleDot s = true
  · simp [hdouble]
  · by_cases hdot : isDot s = true
    · simp [hdouble, hdot]
    · simp [hdouble, hdot]

theorem resolveDots_cons_of_not_dots (h : dots s = false) (settled segs : List String) :
    resolveDots settled (s :: segs) = resolveDots (s :: settled) segs := by
  by_cases hnil : segs = []
  · rw [hnil, resolveDots_singleton, h, if_neg Bool.false_ne_true, resolveDots, List.reverse_cons]
  · rw [resolveDots_cons settled s hnil, settle_of_not_dots h]

theorem resolveDots_of_not_dots (h : ∀ s ∈ segs, dots s = false) (settled : List String) :
    resolveDots settled segs = settled.reverse ++ segs := by
  induction segs generalizing settled with
  | nil => rw [resolveDots, List.append_nil]
  | cons s segs ih =>
    obtain ⟨hs, hsegs⟩ := List.forall_mem_cons.mp h
    rw [resolveDots_cons_of_not_dots hs, ih hsegs, List.reverse_cons, List.append_assoc,
      List.singleton_append]

/-- Resolving dot segments only shortens a path, and does so if there is one. -/
theorem length_unescaped_resolveDots (settled segs : List String) :
    (unescaped (resolveDots settled segs)).length ≤
        (unescaped settled).length + (unescaped segs).length ∧
      ((∃ s ∈ segs, dots s = true) → (unescaped (resolveDots settled segs)).length <
        (unescaped settled).length + (unescaped segs).length) := by
  induction segs generalizing settled with
  | nil =>
    rw [resolveDots, length_unescaped_reverse]
    refine ⟨le_rfl, ?_⟩
    rintro ⟨s, hs, -⟩
    exact absurd hs List.not_mem_nil
  | cons s segs ih =>
    rw [length_unescaped_cons]
    by_cases hs : dots s = true
    · have hless : (unescaped (resolveDots settled (s :: segs))).length <
          (unescaped settled).length +
            ((Percent.decode s.toList).length + 1 + (unescaped segs).length) := by
        have hsettle := length_unescaped_le (settle_of_dots hs settled)
        by_cases hnil : segs = []
        · have hpos := length_decode_of_dots hs
          have hempty : (unescaped [""]).length = 1 := rfl
          rw [hnil, resolveDots_singleton, if_pos hs, unescaped_append, List.length_append,
            length_unescaped_reverse, hempty]
          omega
        · rw [resolveDots_cons settled s hnil]
          have hlater := (ih (settle settled s)).1
          omega
      exact ⟨hless.le, fun _ => hless⟩
    · have hplain : dots s = false := Bool.eq_false_iff.mpr hs
      have hcons := length_unescaped_cons s settled
      obtain ⟨hle, hlt⟩ := ih (s :: settled)
      rw [resolveDots_cons_of_not_dots hplain]
      refine ⟨by omega, ?_⟩
      rintro ⟨dotted, hmem, hdots⟩
      rcases List.mem_cons.mp hmem with rfl | hmem
      · exact absurd hdots hs
      · have hlater := hlt ⟨dotted, hmem, hdots⟩
        omega

end Dots

section Written

/-- The part of a text that stands for a path, behind a slash in an address. -/
def pathPart (cs : List Char) : List Char :=
  (cut (· == '?') (cut (· == '#') (trailing cs)).1).1

theorem pathPart_chain (cs : List Char) :
    (pathPart cs).Sublist (cut (· == '#') (trailing cs)).1 ∧
      (cut (· == '#') (trailing cs)).1.Sublist (trailing cs) ∧
      (trailing cs).Sublist (Text.dropEndWhile (·.toNat ≤ 32) cs) ∧
      (Text.dropEndWhile (·.toNat ≤ 32) cs).Sublist cs := by
  refine ⟨cut_fst_sublist _ _, cut_fst_sublist _ _, List.filter_sublist, ?_⟩
  have hdrop : cs.rdropWhile (·.toNat ≤ 32) <+: cs := List.rdropWhile_prefix _ _
  exact hdrop.sublist

theorem pathPart_sublist (cs : List Char) : (pathPart cs).Sublist cs := by
  obtain ⟨hquery, hfragment, hends, htrail⟩ := pathPart_chain cs
  exact hquery.trans (hfragment.trans (hends.trans htrail))

/-- The text has no mark of a query or a fragment, and nothing that does not count. -/
structure Unmarked (cs : List Char) : Prop where
  marks : ∀ c ∈ cs, c ≠ '?' ∧ c ≠ '#'
  counts : ∀ c ∈ cs, c ∉ "\t\n\r".toList
  last : ∀ c ∈ cs.getLast?, 32 < c.toNat

theorem filter_eq_self_iff_counts : (cs.filter fun c => !"\t\n\r".toList.contains c) = cs ↔
    ∀ c ∈ cs, c ∉ "\t\n\r".toList := by
  simp [List.filter_eq_self]

theorem trailing_eq_self_iff : trailing cs = cs ↔
    (∀ c ∈ cs, c ∉ "\t\n\r".toList) ∧ ∀ c ∈ cs.getLast?, 32 < c.toNat := by
  have hlast : Text.dropEndWhile (·.toNat ≤ 32) cs = cs ↔ ∀ c ∈ cs.getLast?, 32 < c.toNat := by
    simp [Text.dropEndWhile_eq_self_iff]
  rw [← hlast, ← filter_eq_self_iff_counts]
  constructor
  · intro h
    obtain ⟨-, -, hends, htrail⟩ := pathPart_chain cs
    have hdrop : Text.dropEndWhile (·.toNat ≤ 32) cs = cs := htrail.antisymm (by rwa [h] at hends)
    rw [trailing, hdrop] at h
    exact ⟨h, hdrop⟩
  · rintro ⟨hfilter, hdrop⟩
    rw [trailing, hdrop, hfilter]

theorem pathPart_eq_self_iff : pathPart cs = cs ↔ Unmarked cs := by
  have hmark : ∀ mark, (cut (· == mark) cs).1 = cs ↔ ∀ c ∈ cs, c ≠ mark := by
    intro mark
    simp [cut_fst_eq_self_iff]
  constructor
  · intro h
    obtain ⟨hquery, hfragment, hends, htrail⟩ := pathPart_chain cs
    have hall : trailing cs = cs :=
      (hends.trans htrail).antisymm (by simpa only [h] using hquery.trans hfragment)
    have hcut : (cut (· == '#') cs).1 = cs := by
      rw [h, hall] at hquery
      exact (cut_fst_sublist _ _).antisymm hquery
    rw [pathPart, hall, hcut] at h
    obtain ⟨hcounts, hlast⟩ := trailing_eq_self_iff.mp hall
    exact ⟨fun c hc => ⟨(hmark '?').mp h c hc, (hmark '#').mp hcut c hc⟩, hcounts, hlast⟩
  · intro h
    rw [pathPart, trailing_eq_self_iff.mpr ⟨h.counts, h.last⟩,
      (hmark '#').mpr fun c hc => (h.marks c hc).2, (hmark '?').mpr fun c hc => (h.marks c hc).1]

theorem inPath_of_digit? {c : Char} (h : Percent.digit? c ≠ none) : inPath c = true := by
  have hall : ∀ n < 103, Percent.digit? (Char.ofNat n) ≠ none → inPath (Char.ofNat n) = true := by
    decide +kernel
  have hc : c.toNat < 103 := by
    by_contra hlarge
    rw [Percent.digit?, if_neg (by omega), if_neg (by omega), if_neg (by omega)] at h
    exact h rfl
  rw [← Char.ofNat_toNat c] at h ⊢
  exact hall c.toNat hc h

theorem decode_encoded_inPath (cs : List Char) :
    Percent.decode (encoded inPath cs).toList = Percent.decode cs := by
  have hpercent : inPath '%' = true := by decide
  rw [encoded, String.toList_ofList,
    Percent.decode_encode hpercent fun c hc => inPath_of_digit? hc]

theorem unescaped_rawSegments (cs : List Char) : unescaped (rawSegments cs) =
    (cs.splitOnP isSlash).flatMap fun piece => 47 :: Percent.decode piece := by
  rw [unescaped, rawSegments, splitAt_eq_splitOnP, List.flatMap_map]
  simp only [decode_encoded_inPath]

/-- Percent-decoded, the segments are those of the text. -/
def Names (segs : List String) (cs : List Char) : Prop :=
  segs.map (fun s => Percent.decode s.toList) = (cs.splitOn '/').map utf8OfChars

/-- Nothing in the text is resolved, decoded or cut off when it stands for a path. -/
structure Literal (cs : List Char) : Prop extends Unmarked cs where
  slashes : '\\' ∉ cs
  names : ∀ piece ∈ cs.splitOn '/', piece ≠ ['.'] ∧ piece ≠ ['.', '.'] ∧ ¬ Percent.Escapes piece

def isLiteral (cs : List Char) : Bool :=
  cs.all (fun c => c != '?' && c != '#' && !"\t\n\r".toList.contains c && c != '\\') &&
    cs.getLast?.all (fun c => 32 < c.toNat) &&
    (cs.splitOn '/').all fun piece =>
      piece != ['.'] && piece != ['.', '.'] && !decide (Percent.Escapes piece)

theorem isLiteral_iff : isLiteral cs = true ↔ Literal cs := by
  simp only [isLiteral, Bool.and_eq_true, List.all_eq_true, bne_iff_ne, Bool.not_eq_true',
    decide_eq_false_iff_not, List.contains_eq_mem, Option.all_eq_true, decide_eq_true_eq]
  constructor
  · rintro ⟨⟨hall, hlast⟩, hnames⟩
    refine ⟨⟨fun c hc => (hall c hc).1.1, fun c hc => (hall c hc).1.2, fun c hc => hlast c hc⟩,
      fun hmem => (hall _ hmem).2 rfl, fun piece hpiece => ?_⟩
    obtain ⟨⟨hdot, hdouble⟩, hescapes⟩ := hnames piece hpiece
    exact ⟨hdot, hdouble, hescapes⟩
  · intro h
    refine ⟨⟨fun c hc => ⟨⟨h.marks c hc, h.counts c hc⟩, ?_⟩, fun c hc => h.last c hc⟩, ?_⟩
    · rintro rfl
      exact h.slashes hc
    · intro piece hpiece
      obtain ⟨hdot, hdouble, hescapes⟩ := h.names piece hpiece
      exact ⟨⟨hdot, hdouble⟩, hescapes⟩

instance decidableLiteral (cs : List Char) : Decidable (Literal cs) :=
  decidable_of_iff (isLiteral cs = true) isLiteral_iff

theorem length_of_isSlash (c : Char) (h : isSlash c = true) :
    (String.utf8EncodeChar c).length = 1 := by
  rw [isSlash, Bool.or_eq_true, beq_iff_eq, beq_iff_eq] at h
  rcases h with rfl | rfl
  · rfl
  · rfl

theorem Names.length_unescaped (h : Names segs cs) :
    (unescaped segs).length = (utf8OfChars cs).length + 1 := by
  have hslash : ∀ c, (c == '/') = true → (String.utf8EncodeChar c).length = 1 := fun c hc =>
    length_of_isSlash c (by rw [isSlash, hc, Bool.true_or])
  rw [← length_pieces hslash, ← List.splitOn_eq_splitOnP, unescaped,
    ← List.flatMap_map (fun s : String => Percent.decode s.toList) (47 :: ·), h, List.flatMap_map]

theorem splitOnP_isSlash_eq_iff : cs.splitOnP isSlash = cs.splitOn '/' ↔ '\\' ∉ cs := by
  rw [List.splitOn_eq_splitOnP, splitOnP_eq_iff]
  constructor
  · intro h hmem
    exact absurd (h _ hmem) (by decide)
  · intro h c hc
    have hother : (c == '\\') = false := by
      rw [beq_eq_false_iff_ne]
      rintro rfl
      exact h hc
    rw [isSlash, hother, Bool.or_false]

theorem dots_encoded_iff {piece : List Char} (h : ¬ Percent.Escapes piece) :
    dots (encoded inPath piece) = true ↔ piece = ['.'] ∨ piece = ['.', '.'] := by
  constructor
  · intro hdots
    have hdecode : Percent.decode (encoded inPath piece).toList = utf8OfChars piece := by
      rw [decode_encoded_inPath, Percent.decode_eq_utf8OfChars h]
    rw [dots, Bool.or_eq_true] at hdots
    rcases hdots with hdot | hdouble
    · rw [decode_of_isDot hdot] at hdecode
      exact .inl (Text.utf8OfChars_injective hdecode.symm)
    · rw [decode_of_isDoubleDot hdouble] at hdecode
      exact .inr (Text.utf8OfChars_injective hdecode.symm)
  · rintro (rfl | rfl)
    · decide
    · decide

theorem Literal.rawSegments_eq (h : Literal cs) :
    rawSegments cs = (cs.splitOn '/').map (encoded inPath) := by
  rw [rawSegments, splitAt_eq_splitOnP, splitOnP_isSlash_eq_iff.mpr h.slashes]

theorem Literal.not_dots (h : Literal cs) : ∀ s ∈ rawSegments cs, dots s = false := by
  intro s hs
  rw [h.rawSegments_eq, List.mem_map] at hs
  obtain ⟨piece, hpiece, rfl⟩ := hs
  obtain ⟨hdot, hdouble, hescapes⟩ := h.names piece hpiece
  exact Bool.eq_false_iff.mpr ((dots_encoded_iff hescapes).not.mpr (not_or.mpr ⟨hdot, hdouble⟩))

theorem Literal.names_rawSegments (h : Literal cs) : Names (rawSegments cs) cs := by
  rw [Names, h.rawSegments_eq, List.map_map]
  refine List.map_congr_left fun piece hpiece => ?_
  rw [Function.comp_apply, decode_encoded_inPath,
    Percent.decode_eq_utf8OfChars (h.names piece hpiece).2.2]

theorem Literal.resolveDots_eq (h : Literal cs) (settled : List String) :
    resolveDots settled (rawSegments (pathPart cs)) = settled.reverse ++ rawSegments cs := by
  rw [pathPart_eq_self_iff.mpr h.toUnmarked, resolveDots_of_not_dots h.not_dots]

/-- What has neither dots nor escapes as a path is read as its pieces, which are its segments only
if no backslash divides it. -/
theorem literal_of_plain (hunmarked : Unmarked cs) (hplain : ∀ s ∈ rawSegments cs, dots s = false)
    (hescapes : ∀ piece ∈ cs.splitOnP isSlash, ¬ Percent.Escapes piece)
    (hnames : Names (rawSegments cs) cs) : Literal cs := by
  have hpieces : (cs.splitOnP isSlash).map utf8OfChars = (cs.splitOn '/').map utf8OfChars := by
    rw [← hnames, rawSegments, splitAt_eq_splitOnP, List.map_map]
    refine List.map_congr_left fun piece hpiece => ?_
    rw [Function.comp_apply, decode_encoded_inPath,
      Percent.decode_eq_utf8OfChars (hescapes piece hpiece)]
  have hsplit : cs.splitOnP isSlash = cs.splitOn '/' :=
    List.map_injective_iff.mpr (fun _ _ => Text.utf8OfChars_injective) hpieces
  refine ⟨hunmarked, splitOnP_isSlash_eq_iff.mp hsplit, fun piece hpiece => ?_⟩
  rw [← hsplit] at hpiece
  have hmem : encoded inPath piece ∈ rawSegments cs := by
    rw [rawSegments, splitAt_eq_splitOnP]
    exact List.mem_map_of_mem hpiece
  have hescape := hescapes piece hpiece
  obtain ⟨hdot, hdouble⟩ :=
    not_or.mp ((dots_encoded_iff hescape).not.mp (Bool.eq_false_iff.mp (hplain _ hmem)))
  exact ⟨hdot, hdouble, hescape⟩

/-- The bytes are counted: those of the text are all there only if none were lost on the way. -/
theorem literal_of_resolveDots_eq
    (hpath : resolveDots settled (rawSegments (pathPart cs)) = settled.reverse ++ segs)
    (hnames : Names segs cs) : Literal cs := by
  have htotal := hnames.length_unescaped
  obtain ⟨hresolved, hdots⟩ := length_unescaped_resolveDots settled (rawSegments (pathPart cs))
  obtain ⟨hdecoded, hescapes⟩ := length_decode_pieces ((pathPart cs).splitOnP isSlash)
  rw [hpath, unescaped_append, List.length_append, length_unescaped_reverse,
    unescaped_rawSegments] at hresolved hdots
  rw [length_pieces length_of_isSlash] at hdecoded hescapes
  -- cut off, resolved and decoded, the text has as many bytes as before, so nothing was lost
  have hpart : pathPart cs = cs :=
    Text.eq_of_sublist_of_length_utf8OfChars (pathPart_sublist cs) (by omega)
  rw [hpart] at hpath hresolved hdots hdecoded hescapes
  have hplain : ∀ s ∈ rawSegments cs, dots s = false := by
    intro s hs
    by_contra hdotted
    have hless := hdots ⟨s, hs, Bool.not_eq_false _ ▸ hdotted⟩
    omega
  have hunescaped : ∀ piece ∈ cs.splitOnP isSlash, ¬ Percent.Escapes piece := by
    intro piece hpiece hescape
    have hless := hescapes ⟨piece, hpiece, hescape⟩
    omega
  rw [resolveDots_of_not_dots hplain] at hpath
  obtain rfl := List.append_cancel_left hpath
  exact literal_of_plain (pathPart_eq_self_iff.mp hpart) hplain hunescaped hnames

end Written

section Below

/-- A name that is one segment as it stands. -/
structure Word (s : String) : Prop where
  plain : ∀ c ∈ s.toList, inPath c = true
  whole : ∀ c ∈ s.toList, isSlash c = false
  named : dots s = false

theorem shown_of_inPath {c : Char} (h : inPath c = true) : 32 < c.toNat ∧ c ≠ '?' ∧ c ≠ '#' := by
  simp only [inPath, inFragment, hidden, Bool.and_eq_true, Bool.not_eq_true', Bool.or_eq_false_iff,
    decide_eq_false_iff_not] at h
  refine ⟨by omega, ?_, ?_⟩
  · rintro rfl
    exact absurd h.2 (by decide)
  · rintro rfl
    exact absurd h.2 (by decide)

theorem counts_of_inPath {c : Char} (h : inPath c = true) : c ∉ "\t\n\r".toList := by
  have hall : "\t\n\r".toList.all (fun d => !inPath d) = true := by decide
  intro hc
  have hnot := List.all_eq_true.mp hall c hc
  simp [h] at hnot

theorem Word.unmarked (h : Word s) : Unmarked s.toList where
  marks c hc := (shown_of_inPath (h.plain c hc)).2
  counts c hc := counts_of_inPath (h.plain c hc)
  last c hc := (shown_of_inPath (h.plain c (List.mem_of_getLast? hc))).1

theorem Word.rawSegments (h : Word s) : rawSegments s.toList = [s] := by
  rw [Url.rawSegments, splitAt_eq_splitOnP, List.splitOnP_eq_singleton h.whole, List.map_singleton,
    encoded, Percent.encode_eq_self h.plain, String.ofList_toList]

theorem Word.pathPart_append (h : Word s) (cs : List Char) :
    pathPart (s.toList ++ '/' :: cs) = s.toList ++ '/' :: pathPart cs := by
  have hslash : (fun c : Char => decide (c.toNat ≤ 32)) '/' = false := by decide
  have htrailing : trailing (s.toList ++ '/' :: cs) = s.toList ++ '/' :: trailing cs := by
    rw [trailing, Text.dropEndWhile_append_cons hslash, List.filter_append,
      filter_eq_self_iff_counts.mpr h.unmarked.counts]
    rfl
  rw [pathPart, htrailing, cut_append_cons (by decide) fun c hc => (h.unmarked.marks c hc).2,
    cut_append_cons (by decide) fun c hc => (h.unmarked.marks c hc).1, pathPart]

theorem Word.unmarked_append (h : Word s) (hcs : Unmarked cs) :
    Unmarked (s.toList ++ '/' :: cs) := by
  rw [← pathPart_eq_self_iff, h.pathPart_append, pathPart_eq_self_iff.mpr hcs]

variable (site : Url)

theorem below_path (tail : List Char) : (site.below (trailing tail)).path =
    resolveDots site.path.dropLast.reverse (rawSegments (pathPart tail)) := rfl

theorem below_path_word (h : Word s) :
    (site.below (trailing s.toList)).path = site.path.dropLast ++ [s] := by
  rw [below_path, pathPart_eq_self_iff.mpr h.unmarked, h.rawSegments,
    resolveDots_of_not_dots (by simpa using h.named), List.reverse_reverse]

theorem below_path_append (h : Word s) (cs : List Char) :
    (site.below (trailing (s.toList ++ '/' :: cs))).path =
      resolveDots (s :: site.path.dropLast.reverse) (rawSegments (pathPart cs)) := by
  rw [below_path, h.pathPart_append, rawSegments_append_slash, h.rawSegments,
    List.singleton_append, resolveDots_cons_of_not_dots h.named]

theorem below_of_unmarked {tail : List Char} (h : Unmarked tail) : site.below (trailing tail) =
    leadingTo site (resolveDots site.path.dropLast.reverse (rawSegments tail)) none none := by
  have hmark : ∀ mark, (∀ c ∈ tail, c ≠ mark) → cut (· == mark) tail = (tail, none) := by
    intro mark hmark
    exact cut_of_forall (by simpa using hmark)
  rw [trailing_eq_self_iff.mpr ⟨h.counts, h.last⟩, below, hmark '#' fun c hc => (h.marks c hc).2,
    hmark '?' fun c hc => (h.marks c hc).1]

end Below

end Url

end TwinCatalogue
