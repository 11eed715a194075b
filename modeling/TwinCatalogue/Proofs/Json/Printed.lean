import Mathlib.Data.List.DropRight
import TwinCatalogue.Proofs.Json.Numbers

/-! A printed value is one value. It is read back as the tree of what was written. -/

namespace TwinCatalogue.Json

/-- How a character of a string is written: by its number if it is a control character that no
letter stands for, and else by itself or that letter. -/
def piece (c : Char) : Piece :=
  if c.toNat < 32 ∧ c ≠ '\x08' ∧ c ≠ '\x0c' ∧ c ≠ '\n' ∧ c ≠ '\r' ∧ c ≠ '\t' then .unit c.toNat
  else .char c

variable {cs rest : List Char} {ps : List Piece}

theorem pieces_letter {c e : Char} (hc : letterEscape? c = some e) (h : pieces cs = .ok (ps, rest)) :
    pieces ('\\' :: c :: cs) = .ok (.char e :: ps, rest) := by
  have hu : c ≠ 'u' := by
    rintro rfl
    exact nomatch hc
  rw [pieces, hc]
  · simp only [h, bind, Except.bind]
    rfl
  · rintro a b d e cs rfl
    exact absurd rfl hu

theorem pieces_unit {a b c d : Char} {n : Nat} (hunit : unitEscape a b c d = some n)
    (h : pieces cs = .ok (ps, rest)) :
    pieces ('\\' :: 'u' :: a :: b :: c :: d :: cs) = .ok (.unit n :: ps, rest) := by
  rw [pieces, hunit]
  simp only [h, bind, Except.bind]
  rfl

theorem pieces_char {c : Char} (hquote : c ≠ '"') (hslash : c ≠ '\\') (hcontrol : ¬ c.toNat < 32)
    (h : pieces cs = .ok (ps, rest)) : pieces (c :: cs) = .ok (.char c :: ps, rest) := by
  rw [pieces, if_neg hcontrol]
  · simp only [h, bind, Except.bind]
    rfl
  · exact hquote
  · rintro a b d e cs rfl
    exact absurd rfl hslash
  · rintro d cs rfl
    exact absurd rfl hslash

theorem toDigits_sixteen {n : Nat} (h : n < 32) : (if n < 16 then ['0'] else []) ++ Nat.toDigits 16 n =
    [if n < 16 then '0' else '1', (n % 16).digitChar] := by
  have hdigits : ∀ n : Fin 32, (if n.val < 16 then ['0'] else []) ++ Nat.toDigits 16 n.val =
      [if n.val < 16 then '0' else '1', (n.val % 16).digitChar] := by decide
  exact hdigits ⟨n, h⟩

theorem unitEscape_control {n : Nat} (h : n < 32) :
    unitEscape '0' '0' (if n < 16 then '0' else '1') (n % 16).digitChar = some n := by
  have hunits : ∀ n : Fin 32, unitEscape '0' '0' (if n.val < 16 then '0' else '1')
      (n.val % 16).digitChar = some n.val := by decide
  exact hunits ⟨n, h⟩

/-- The three ways to write a character: by a letter, by its number, or as it is. -/
theorem escape_cases (c : Char) :
    (∃ letter, letterEscape? letter = some c ∧ piece c = .char c ∧
      (escape c).toList = ['\\', letter]) ∨
    (c.toNat < 32 ∧ piece c = .unit c.toNat ∧ (escape c).toList =
      ['\\', 'u', '0', '0', if c.toNat < 16 then '0' else '1', (c.toNat % 16).digitChar]) ∨
    (c ≠ '"' ∧ c ≠ '\\' ∧ ¬ c.toNat < 32 ∧ piece c = .char c ∧ (escape c).toList = [c]) := by
  by_cases hquote : c = '"'
  · exact .inl ⟨'"', by rw [hquote]; decide⟩
  by_cases hslash : c = '\\'
  · exact .inl ⟨'\\', by rw [hslash]; decide⟩
  by_cases hback : c = '\x08'
  · exact .inl ⟨'b', by rw [hback]; decide⟩
  by_cases hfeed : c = '\x0c'
  · exact .inl ⟨'f', by rw [hfeed]; decide⟩
  by_cases hline : c = '\n'
  · exact .inl ⟨'n', by rw [hline]; decide⟩
  by_cases hreturn : c = '\r'
  · exact .inl ⟨'r', by rw [hreturn]; decide⟩
  by_cases htab : c = '\t'
  · exact .inl ⟨'t', by rw [htab]; decide⟩
  simp only [escape, piece, hquote, hslash, hback, hfeed, hline, hreturn, htab, if_false, ne_eq,
    not_false_iff, and_true]
  by_cases hcontrol : c.toNat < 32
  · refine .inr (.inl ⟨hcontrol, if_pos hcontrol, ?_⟩)
    have hhex : (Text.hex c.toNat).toList = Nat.toDigits 16 c.toNat := String.toList_ofList
    rw [if_pos hcontrol, String.toList_append, String.toList_append, hhex, List.append_assoc]
    refine congrArg (['\\', 'u', '0', '0'] ++ ·) (Eq.trans ?_ (toDigits_sixteen hcontrol))
    split <;> rfl
  · refine .inr (.inr ⟨trivial, trivial, hcontrol, if_neg hcontrol, ?_⟩)
    rw [if_neg hcontrol]
    exact String.toList_singleton c

theorem pieces_escape (c : Char) (h : pieces cs = .ok (ps, rest)) :
    pieces ((escape c).toList ++ cs) = .ok (piece c :: ps, rest) := by
  rcases escape_cases c with ⟨letter, hletter, hpiece, htext⟩ | ⟨hcontrol, hpiece, htext⟩ |
    ⟨hquote, hslash, hcontrol, hpiece, htext⟩
  · rw [htext, hpiece]
    exact pieces_letter hletter h
  · rw [htext, hpiece]
    exact pieces_unit (unitEscape_control hcontrol) h
  · rw [htext, hpiece]
    exact pieces_char hquote hslash hcontrol h

theorem pieces_escaped (chars rest : List Char) :
    pieces (chars.flatMap (fun c => (escape c).toList) ++ '"' :: rest) =
      .ok (chars.map piece, rest) := by
  induction chars with
  | nil => rfl
  | cons c chars ih =>
    rw [List.flatMap_cons, List.append_assoc, List.map_cons]
    exact pieces_escape c ih

theorem toList_quote (s : String) :
    (quote s).toList = '"' :: (s.toList.flatMap (fun c => (escape c).toList) ++ ['"']) := by
  rw [quote, String.toList_append, String.toList_append, String.toList_join, List.flatMap_map]
  rfl

section Reading

variable {fuel : Nat} {mid next : List Char} {w : Written}

theorem skipSpace_cons {c : Char} (h : isSpace c = false) (cs : List Char) :
    skipSpace (c :: cs) = c :: cs :=
  List.dropWhile_cons_of_neg (by rw [h]; exact Bool.false_ne_true)

theorem skipSpace_blanks {blanks : List Char} (h : ∀ c ∈ blanks, isSpace c = true)
    (cs : List Char) : skipSpace (blanks ++ cs) = skipSpace cs :=
  List.dropWhile_append_of_pos h

theorem skipSpace_skipSpace (cs : List Char) : skipSpace (skipSpace cs) = skipSpace cs :=
  List.dropWhile_idempotent _ _

theorem value_skipSpace (fuel : Nat) (cs : List Char) :
    value (fuel + 1) (skipSpace cs) = value (fuel + 1) cs := by
  rw [value.eq_def, value.eq_def]
  simp only [skipSpace_skipSpace]

/-- What a list begins with does not close it. -/
theorem items_start {found : List Written × List Char} (h : items fuel cs = .ok found) :
    ∃ c next, skipSpace cs = c :: next ∧ c ≠ ']' := by
  rcases fuel with _ | _ | fuel
  · exact nomatch h
  · exact nomatch h
  · rw [items, ← value_skipSpace] at h
    cases hskip : skipSpace cs with
    | nil =>
      rw [hskip] at h
      exact nomatch h
    | cons c next =>
      refine ⟨c, next, rfl, ?_⟩
      rintro rfl
      rw [hskip] at h
      exact nomatch h

theorem members_start {found : List (List Piece × Written) × List Char}
    (h : members fuel cs = .ok found) : ∃ next, cs = '"' :: next := by
  cases fuel with
  | zero => exact nomatch h
  | succ fuel =>
    rw [members.eq_def] at h
    split at h
    · exact nomatch h
    · dsimp only at h
      split at h
      · exact ⟨_, rfl⟩
      · exact nomatch h

theorem value_array {ws : List Written} (h : items fuel (skipSpace cs) = .ok (ws, rest)) :
    value (fuel + 1) ('[' :: cs) = .ok (.array ws, rest) := by
  obtain ⟨c, next, hstart, hc⟩ := items_start h
  rw [skipSpace_skipSpace] at hstart
  rw [value.eq_def]
  simp only [skipSpace_cons (show isSpace '[' = false from rfl)]
  rw [hstart] at h ⊢
  split
  · rename_i heq
    exact absurd (List.cons.inj heq).1 hc
  · rename_i heq
    exact nomatch heq
  · simp only [h, bind, Except.bind]
    rfl

theorem items_last (hvalue : value fuel cs = .ok (w, mid)) (hmid : skipSpace mid = ']' :: rest) :
    items (fuel + 1) cs = .ok ([w], rest) := by
  rw [items, hvalue]
  simp only [bind, Except.bind, hmid]
  rfl

theorem items_more {ws : List Written} (hvalue : value fuel cs = .ok (w, mid))
    (hmid : skipSpace mid = ',' :: next) (h : items fuel (skipSpace next) = .ok (ws, rest)) :
    items (fuel + 1) cs = .ok (w :: ws, rest) := by
  obtain ⟨c, next', hstart, hc⟩ := items_start h
  rw [skipSpace_skipSpace] at hstart
  rw [items, hvalue]
  simp only [bind, Except.bind, hmid]
  rw [hstart] at h ⊢
  split
  · rename_i heq
    exact absurd (List.cons.inj heq).1 hc
  · simp only [h]
    rfl

theorem value_object {ws : List (List Piece × Written)}
    (h : members fuel (skipSpace cs) = .ok (ws, rest)) :
    value (fuel + 1) ('{' :: cs) = .ok (.object ws, rest) := by
  obtain ⟨next, hstart⟩ := members_start h
  rw [value.eq_def]
  simp only [skipSpace_cons (show isSpace '{' = false from rfl)]
  rw [hstart] at h ⊢
  split
  · rename_i heq
    exact absurd (List.cons.inj heq).1 (by decide)
  · rename_i heq
    exact nomatch heq
  · simp only [h, bind, Except.bind]
    rfl

theorem members_last {mid' : List Char} (hkey : pieces cs = .ok (ps, ':' :: mid))
    (hvalue : value fuel mid = .ok (w, mid')) (hmid : skipSpace mid' = '}' :: rest) :
    members (fuel + 1) ('"' :: cs) = .ok ([(ps, w)], rest) := by
  rw [members, hkey]
  simp only [bind, Except.bind, skipSpace_cons (show isSpace ':' = false from rfl), hvalue, hmid]
  rfl

theorem members_more {ws : List (List Piece × Written)} {mid' : List Char}
    (hkey : pieces cs = .ok (ps, ':' :: mid)) (hvalue : value fuel mid = .ok (w, mid'))
    (hmid : skipSpace mid' = ',' :: next) (h : members fuel (skipSpace next) = .ok (ws, rest)) :
    members (fuel + 1) ('"' :: cs) = .ok ((ps, w) :: ws, rest) := by
  obtain ⟨next', hstart⟩ := members_start h
  rw [members, hkey]
  simp only [bind, Except.bind, skipSpace_cons (show isSpace ':' = false from rfl), hvalue, hmid]
  rw [hstart] at h ⊢
  split
  · rename_i heq
    exact absurd (List.cons.inj heq).1 (by decide)
  · rename_i heq
    exact nomatch heq
  · simp only [h]
    rfl

end Reading

mutual

/-- A value as it is written. -/
def written : Json → Written
  | .null => .null
  | .bool b => .bool b
  | .integer n => .number ⟨decide (n < 0), Nat.toDigits 10 n.natAbs, [], none⟩
  | .decimal x =>
    match x.written? with
    | none => .null
    | some n => .number n
  | .string s => .string (s.toList.map piece)
  | .array items => .array (writtenItems items)
  | .object members => .object (writtenMembers members)

def writtenItems : List Json → List Written
  | [] => []
  | v :: rest => v.written :: writtenItems rest

def writtenMembers : List (String × Json) → List (List Piece × Written)
  | [] => []
  | (key, v) :: rest => (key.toList.map piece, v.written) :: writtenMembers rest

end

/-- The entries of a block, each on a line of its own. -/
def lines (indent : String) (entries : List String) : List Char :=
  [',', '\n'].intercalate (entries.map fun e => indent.toList ++ e.toList)

theorem lines_singleton (indent e : String) : lines indent [e] = indent.toList ++ e.toList := by
  simp [lines]

theorem lines_cons (indent e e' : String) (entries : List String) :
    lines indent (e :: e' :: entries) =
      indent.toList ++ (e.toList ++ ',' :: '\n' :: lines indent (e' :: entries)) := by
  simp [lines]

theorem toList_block (opening closing indent e : String) (entries : List String) :
    (block opening closing indent (e :: entries)).toList = opening.toList ++ '\n' ::
      (lines (indent ++ "  ") (e :: entries) ++ '\n' :: (indent.toList ++ closing.toList)) := by
  have hentries : ((e :: entries).map (indent ++ "  " ++ ·)).map String.toList =
      (e :: entries).map fun e => (indent ++ "  ").toList ++ e.toList := by
    rw [List.map_map]
    exact List.map_congr_left fun e _ => String.toList_append
  rw [block, List.isEmpty_cons, if_neg Bool.false_ne_true]
  simp only [String.toList_append, String.toList_intercalate, hentries, lines, List.append_assoc]
  rfl

theorem value_digit {fuel : Nat} {c : Char} (h : c.isDigit = true) (cs : List Char) :
    value (fuel + 1) (c :: cs) = number false (c :: cs) := by
  have hspace : isSpace c = false := by
    refine Bool.eq_false_iff.mpr fun hspace => ?_
    simp only [isSpace, Bool.or_eq_true, beq_iff_eq] at hspace
    rcases hspace with ((rfl | rfl) | rfl) | rfl <;> exact absurd h (by decide)
  rw [value.eq_def]
  simp only [skipSpace_cons hspace]
  split <;> rename_i heq
  case h_9 =>
    obtain ⟨rfl, rfl⟩ := List.cons.inj heq
    exact if_pos h
  case h_1 => exact nomatch heq
  all_goals
    obtain ⟨rfl, -⟩ := List.cons.inj heq
    exact absurd h (by decide)

theorem value_number {n : WrittenNumber} (hn : n.Proper) (h : Follows rest) (fuel : Nat) :
    value (fuel + 1) (n.text ++ rest) = .ok (.number n, rest) := by
  have hread := WrittenNumber.number_unsigned hn h
  unfold WrittenNumber.text
  cases hnegative : n.negative with
  | true =>
    rw [hnegative] at hread
    exact hread
  | false =>
    rw [hnegative] at hread
    obtain ⟨c, cs, hwhole⟩ := List.exists_cons_of_ne_nil hn.whole.ne_nil
    have hdigit : c.isDigit = true := hn.whole.digits c (by rw [hwhole]; exact List.mem_cons_self)
    have htext : n.unsigned = c :: (cs ++ (fractionText n.fraction ++ powerText n.exponent)) := by
      rw [WrittenNumber.unsigned, hwhole, List.cons_append]
    rw [if_neg Bool.false_ne_true, htext, List.cons_append, value_digit hdigit, ← List.cons_append,
      ← htext, hread]

theorem value_quote (s : String) (rest : List Char) (fuel : Nat) :
    value (fuel + 1) ((quote s).toList ++ rest) = .ok (.string (s.toList.map piece), rest) := by
  have hread := pieces_escaped s.toList rest
  rw [toList_quote, List.cons_append, List.append_assoc, value.eq_def]
  simp only [skipSpace_cons (show isSpace '"' = false from rfl), List.singleton_append, hread, bind,
    Except.bind]
  rfl

theorem toList_toString (n : Int) : (toString n).toList =
    (WrittenNumber.mk (decide (n < 0)) (Nat.toDigits 10 n.natAbs) [] none).text := by
  have hunsigned (negative : Bool) (cs : List Char) :
      (WrittenNumber.mk negative cs [] none).unsigned = cs := List.append_nil cs
  rw [WrittenNumber.text, hunsigned]
  cases n with
  | ofNat n => exact Nat.toList_repr
  | negSucc n =>
    have htext : (toString (Int.negSucc n)).toList = '-' :: (n + 1).repr.toList :=
      String.toList_append
    have hneg : decide (Int.negSucc n < 0) = true := decide_eq_true (Int.negSucc_lt_zero n)
    rw [htext, Nat.toList_repr, hneg, if_pos rfl, Int.natAbs_negSucc]

theorem value_null (rest : List Char) (fuel : Nat) :
    value (fuel + 1) ("null".toList ++ rest) = .ok (.null, rest) := rfl

theorem value_bool (b : Bool) (rest : List Char) (fuel : Nat) :
    value (fuel + 1) ((compact (.bool b)).toList ++ rest) = .ok (.bool b, rest) := by
  cases b <;> rfl

theorem value_integer (n : Int) (h : Follows rest) (fuel : Nat) :
    value (fuel + 1) ((toString n).toList ++ rest) = .ok ((integer n).written, rest) := by
  rw [toList_toString]
  exact value_number ⟨whole_toDigits _, List.forall_mem_nil _⟩ h fuel

theorem value_decimal (x : Binary64) (h : Follows rest) (fuel : Nat) :
    value (fuel + 1) ((decimalText x).toList ++ rest) = .ok ((decimal x).written, rest) := by
  rw [decimalText, Binary64.json?_eq, written]
  cases hx : x.written? with
  | none => exact value_null rest fuel
  | some n =>
    rw [Option.map_some, Option.getD_some, String.toList_ofList]
    exact value_number (Binary64.proper_written hx) h fuel

theorem value_noItems (rest : List Char) (fuel : Nat) :
    value (fuel + 1) ("[]".toList ++ rest) = .ok (.array [], rest) := rfl

theorem value_noMembers (rest : List Char) (fuel : Nat) :
    value (fuel + 1) ("\x7b\x7d".toList ++ rest) = .ok (.object [], rest) := rfl

/-- A value is read back as it is written, at whatever indent it is printed and whatever follows. -/
def ReadBack (v : Json) : Prop :=
  ∀ (indent : String) (rest : List Char) (fuel : Nat), (∀ c ∈ indent.toList, isSpace c = true) →
    Follows rest → (prettyWith indent v).toList.length ≤ fuel →
      value (fuel + 1) ((prettyWith indent v).toList ++ rest) = .ok (v.written, rest)

section Layout

variable {indent : String} {tail : List Char}

theorem isSpace_deeper (h : ∀ c ∈ indent.toList, isSpace c = true) :
    ∀ c ∈ (indent ++ "  ").toList, isSpace c = true := by
  intro c hc
  rw [String.toList_append] at hc
  rcases List.mem_append.mp hc with hc | hc
  · exact h c hc
  · obtain rfl : c = ' ' := List.eq_of_mem_replicate (n := 2) hc
    rfl

theorem skipSpace_closing {c : Char} (hindent : ∀ c ∈ indent.toList, isSpace c = true)
    (hc : isSpace c = false) (rest : List Char) :
    skipSpace (indent.toList ++ c :: rest) = c :: rest := by
  rw [skipSpace_blanks hindent, skipSpace_cons hc]

theorem items_pretty {v : Json} {vs : List Json} (hread : ∀ x ∈ v :: vs, ReadBack x)
    (hindent : ∀ c ∈ indent.toList, isSpace c = true) (htail : skipSpace tail = ']' :: rest)
    {fuel : Nat} (hfuel : (lines indent (prettyItems indent (v :: vs))).length + 1 < fuel) :
    items fuel (skipSpace (lines indent (prettyItems indent (v :: vs)) ++ '\n' :: tail)) =
      .ok (writtenItems (v :: vs), rest) := by
  induction vs generalizing v fuel with
  | nil =>
    -- one call for the list and one for its first item
    obtain ⟨fuel, rfl⟩ : ∃ n, fuel = n + 2 := ⟨fuel - 2, by omega⟩
    simp only [prettyItems, lines_singleton, List.length_append] at hfuel ⊢
    have hvalue := hread v List.mem_cons_self indent ('\n' :: tail) fuel hindent
      (follows_cons (.inr rfl) _) (by omega)
    rw [List.append_assoc, skipSpace_blanks hindent]
    exact items_last ((value_skipSpace fuel _).trans hvalue) htail
  | cons v' vs ih =>
    obtain ⟨fuel, rfl⟩ : ∃ n, fuel = n + 2 := ⟨fuel - 2, by omega⟩
    simp only [prettyItems, lines_cons, List.length_append, List.length_cons] at hfuel ⊢
    have hitems := ih (fun x hx => hread x (List.mem_cons_of_mem _ hx))
      (show (lines indent (prettyItems indent (v' :: vs))).length + 1 < fuel + 1 by
        simp only [prettyItems]
        omega)
    have hvalue := hread v List.mem_cons_self indent
      (',' :: '\n' :: (lines indent (prettyItems indent (v' :: vs)) ++ '\n' :: tail)) fuel hindent
      (follows_cons (.inl rfl) _) (by omega)
    simp only [List.append_assoc, List.cons_append]
    rw [skipSpace_blanks hindent]
    exact items_more ((value_skipSpace fuel _).trans hvalue) (skipSpace_cons rfl _) hitems

theorem readBack_array {vs : List Json} (hread : ∀ v ∈ vs, ReadBack v) : ReadBack (.array vs) := by
  intro indent rest fuel hindent _ hfuel
  cases vs with
  | nil => exact value_noItems rest fuel
  | cons v vs =>
    let entries := lines (indent ++ "  ") (prettyItems (indent ++ "  ") (v :: vs))
    have htext : (prettyWith indent (.array (v :: vs))).toList =
        '[' :: '\n' :: (entries ++ '\n' :: (indent.toList ++ [']'])) := toList_block ..
    have hlength : entries.length + 1 < fuel := by
      simp only [htext, List.length_cons, List.length_append] at hfuel
      omega
    have htail : skipSpace (indent.toList ++ ']' :: rest) = _ := skipSpace_closing hindent rfl rest
    rw [htext]
    simp only [List.cons_append, List.append_assoc]
    exact value_array (items_pretty hread (isSpace_deeper hindent) htail hlength)

theorem toList_member (key text : String) : (quote key ++ ": " ++ text).toList =
    '"' :: (key.toList.flatMap (fun c => (escape c).toList) ++ '"' :: ':' :: ' ' :: text.toList) := by
  rw [String.toList_append, String.toList_append, toList_quote, List.append_assoc, List.cons_append,
    List.append_assoc]
  rfl

theorem value_afterColon (fuel : Nat) (cs : List Char) :
    value (fuel + 1) (' ' :: cs) = value (fuel + 1) cs :=
  ((value_skipSpace fuel (' ' :: cs)).symm).trans (value_skipSpace fuel cs)

theorem members_pretty {m : String × Json} {ms : List (String × Json)}
    (hread : ∀ x ∈ m :: ms, ReadBack x.2) (hindent : ∀ c ∈ indent.toList, isSpace c = true)
    (htail : skipSpace tail = '}' :: rest) {fuel : Nat}
    (hfuel : (lines indent (prettyMembers indent (m :: ms))).length + 1 < fuel) :
    members fuel (skipSpace (lines indent (prettyMembers indent (m :: ms)) ++ '\n' :: tail)) =
      .ok (writtenMembers (m :: ms), rest) := by
  induction ms generalizing m fuel with
  | nil =>
    obtain ⟨fuel, rfl⟩ : ∃ n, fuel = n + 2 := ⟨fuel - 2, by omega⟩
    obtain ⟨key, v⟩ := m
    have hv : ReadBack v := hread (key, v) List.mem_cons_self
    simp only [prettyMembers, lines_singleton, toList_member, List.length_append,
      List.length_cons] at hfuel ⊢
    have hvalue := hv indent ('\n' :: tail) fuel hindent (follows_cons (.inr rfl) _) (by omega)
    simp only [List.append_assoc, List.cons_append]
    rw [skipSpace_blanks hindent, skipSpace_cons rfl]
    exact members_last (pieces_escaped _ _) ((value_afterColon fuel _).trans hvalue) htail
  | cons m' ms ih =>
    obtain ⟨fuel, rfl⟩ : ∃ n, fuel = n + 2 := ⟨fuel - 2, by omega⟩
    obtain ⟨key, v⟩ := m
    obtain ⟨key', v'⟩ := m'
    have hv : ReadBack v := hread (key, v) List.mem_cons_self
    simp only [prettyMembers, lines_cons, toList_member, List.length_append,
      List.length_cons] at hfuel ⊢
    have hmembers := ih (m := (key', v')) (fun x hx => hread x (List.mem_cons_of_mem _ hx))
      (show (lines indent (prettyMembers indent ((key', v') :: ms))).length + 1 < fuel + 1 by
        simp only [prettyMembers]
        omega)
    have hvalue := hv indent
      (',' :: '\n' :: (lines indent (prettyMembers indent ((key', v') :: ms)) ++ '\n' :: tail)) fuel
      hindent (follows_cons (.inl rfl) _) (by omega)
    simp only [List.append_assoc, List.cons_append]
    rw [skipSpace_blanks hindent, skipSpace_cons rfl]
    exact members_more (pieces_escaped _ _) ((value_afterColon fuel _).trans hvalue)
      (skipSpace_cons rfl _) hmembers

theorem readBack_object {ms : List (String × Json)} (hread : ∀ m ∈ ms, ReadBack m.2) :
    ReadBack (.object ms) := by
  intro indent rest fuel hindent _ hfuel
  cases ms with
  | nil => exact value_noMembers rest fuel
  | cons m ms =>
    let entries := lines (indent ++ "  ") (prettyMembers (indent ++ "  ") (m :: ms))
    have htext : (prettyWith indent (.object (m :: ms))).toList =
        '{' :: '\n' :: (entries ++ '\n' :: (indent.toList ++ ['}'])) := toList_block ..
    have hlength : entries.length + 1 < fuel := by
      simp only [htext, List.length_cons, List.length_append] at hfuel
      omega
    have htail : skipSpace (indent.toList ++ '}' :: rest) = _ := skipSpace_closing hindent rfl rest
    rw [htext]
    simp only [List.cons_append, List.append_assoc]
    exact value_object (members_pretty hread (isSpace_deeper hindent) htail hlength)

end Layout

theorem readBack (v : Json) : ReadBack v := by
  cases v with
  | null => exact fun _ rest fuel _ _ _ => value_null rest fuel
  | bool b => exact fun _ rest fuel _ _ _ => value_bool b rest fuel
  | integer n => exact fun _ _ fuel _ h _ => value_integer n h fuel
  | decimal x => exact fun _ _ fuel _ h _ => value_decimal x h fuel
  | string s => exact fun _ rest fuel _ _ _ => value_quote s rest fuel
  | array vs => exact readBack_array fun v hv => readBack v
  | object ms => exact readBack_object fun m hm => readBack m.2
termination_by sizeOf v
decreasing_by
  · have hlt := List.sizeOf_lt_of_mem hv
    simp only [array.sizeOf_spec]
    omega
  · have hlt := List.sizeOf_lt_of_mem hm
    have hsnd : sizeOf m.2 < sizeOf m := by
      obtain ⟨key, v⟩ := m
      simp only [Prod.mk.sizeOf_spec]
      omega
    simp only [object.sizeOf_spec]
    omega

/-- A printed value with a line end behind it is one value, read back as it is written. -/
theorem ofChars_pretty (v : Json) : Written.ofChars (v.pretty ++ "\n").toList = .ok v.written := by
  have htext : (v.pretty ++ "\n").toList = v.pretty.toList ++ ['\n'] := String.toList_append
  have hvalue := readBack v "" ['\n'] (2 * (v.pretty.toList ++ ['\n']).length + 1)
    (List.forall_mem_nil _) (follows_cons (.inr rfl) [])
    (show v.pretty.toList.length ≤ _ by rw [List.length_append]; omega)
  change value _ (v.pretty.toList ++ ['\n']) = _ at hvalue
  rw [htext, Written.ofChars, hvalue]
  rfl

end TwinCatalogue.Json
