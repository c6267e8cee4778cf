import SecretSync.Json.Parser
import SecretSync.Json.Printer

/-!
# Reading back the indented layout

Strings in the indented layout read back as they were, whatever characters they have, and the line
breaks of the layout are skipped between tokens.
-/

namespace SecretSync.Json

private theorem hex4_hexText_all : ∀ n, n < 0x20 →
    ∃ a b c d, Text.hexText 4 n = [a, b, c, d] ∧ hex4 a b c d = some n := by
  intro n hn
  refine ⟨_, _, _, _, rfl, ?_⟩
  revert n
  decide

private theorem stringTail_plain (c : Char) (rest : List Char) (hq : c ≠ '"') (hb : c ≠ '\\')
    (hn : ¬ c.toNat < 0x20) : stringTail (c :: rest) = consChar c (stringTail rest) := by
  rw [stringTail]
  · rw [if_neg (not_or.mpr ⟨hn, hb⟩)]
  · exact hq
  · intro a b d e tail h
    exact (hb h).elim
  · intro d tail h
    exact (hb h).elim

private theorem stringTail_control (c : Char) (rest : List Char) (hn : c.toNat < 0x20) :
    stringTail ('\\' :: 'u' :: Text.hexText 4 c.toNat ++ rest) = consChar c (stringTail rest) := by
  obtain ⟨a, b, d, e, htext, hvalue⟩ := hex4_hexText_all c.toNat hn
  rw [htext]
  simp only [List.cons_append, List.nil_append, stringTail, hvalue]
  rw [if_neg (by omega), if_neg (by omega), Char.ofNat_toNat]

/-- A character that has been written inside a string reads back as itself. -/
theorem stringTail_escapeChar (c : Char) (rest : List Char) :
    stringTail (escapeChar c ++ rest) = consChar c (stringTail rest) := by
  unfold escapeChar
  repeat' split
  · next h => subst h; rfl
  · next h => subst h; rfl
  · next h => subst h; rfl
  · next h => subst h; rfl
  · next h => subst h; rfl
  · next h => subst h; rfl
  · next h => subst h; rfl
  · next h => exact stringTail_control c rest h
  · next hq hb _ _ _ _ _ hn => exact stringTail_plain c rest hq hb hn

/-- The characters of a string that has been written read back, whatever stands behind it. -/
theorem stringTail_flatMap (cs rest : List Char) :
    stringTail (cs.flatMap escapeChar ++ '"' :: rest) = some (cs, rest) := by
  induction cs with
  | nil => rfl
  | cons c cs ih =>
    rw [List.flatMap_cons, List.append_assoc, stringTail_escapeChar, ih]
    rfl

private theorem stringText_append (escape : Char → List Char) (s : String) (rest : List Char) :
    stringText escape s ++ rest = '"' :: (s.toList.flatMap escape ++ '"' :: rest) := by
  simp only [stringText, List.cons_append, List.append_assoc, List.nil_append]

private theorem skipSpace_replicate (n : Nat) (cs : List Char) :
    skipSpace (List.replicate n ' ' ++ cs) = skipSpace cs := by
  induction n with
  | zero => rfl
  | succ n ih => exact ih

/-- A line break with its indentation is skipped. -/
theorem skipSpace_newline (level : Nat) (cs : List Char) :
    skipSpace (newline level ++ cs) = skipSpace cs :=
  skipSpace_replicate (2 * level) cs

/-- No space is skipped before another character. -/
theorem skipSpace_cons {c : Char} (hc : isSpace c = false) (cs : List Char) :
    skipSpace (c :: cs) = c :: cs := by
  rw [skipSpace, List.dropWhile_cons, hc]
  rfl

/-- No space is skipped before a string. -/
theorem skipSpace_stringText (s : String) (rest : List Char) :
    skipSpace (stringText escapeChar s ++ rest) =
      '"' :: (s.toList.flatMap escapeChar ++ '"' :: rest) := by
  rw [stringText_append, skipSpace_cons rfl]

/-! ### One step of the reader -/

private theorem value_of_quote {cs rest : List Char} (fuel depth : Nat)
    (h : skipSpace cs = '"' :: rest) :
    value (fuel + 1) depth cs =
      (stringTail rest).map (fun p => (str (String.ofList p.1), p.2)) := by
  rw [value, h]
  rfl

/-- A bracket with something behind it opens a list of items. -/
theorem value_of_bracket {cs rest tail : List Char} {c : Char} (fuel depth : Nat)
    (h : skipSpace cs = '[' :: rest) (hrest : skipSpace rest = c :: tail) (hc : c ≠ ']') :
    value (fuel + 1) (depth + 1) cs =
      (items fuel depth (c :: tail)).map (fun p => (arr p.1, p.2)) := by
  simp only [value, h, hrest]
  split
  · next he => exact (hc (List.cons.inj he).1).elim
  · next he _ => cases he
  · next hd _ => cases hd; rfl

/-- Two brackets with nothing between them are the empty list. -/
theorem value_of_empty_brackets {cs rest tail : List Char} (fuel depth : Nat)
    (h : skipSpace cs = '[' :: rest) (hrest : skipSpace rest = ']' :: tail) :
    value (fuel + 1) depth cs = some (arr [], tail) := by
  simp only [value, h, hrest]

/-- A brace with something behind it opens a list of members. -/
theorem value_of_brace {cs rest tail : List Char} {c : Char} (fuel depth : Nat)
    (h : skipSpace cs = '{' :: rest) (hrest : skipSpace rest = c :: tail) (hc : c ≠ '}') :
    value (fuel + 1) (depth + 1) cs =
      (memberList fuel depth (c :: tail)).map
        (fun p => (obj (Dict.ofList p.1).entries, p.2)) := by
  simp only [value, h, hrest]
  split
  · next he => exact (hc (List.cons.inj he).1).elim
  · next he _ => cases he
  · next hd _ => cases hd; rfl

/-- Behind a comma the items go on. -/
theorem items_of_comma {cs rest tail : List Char} {v : Json} (fuel depth : Nat)
    (h : value fuel depth cs = some (v, rest)) (hrest : skipSpace rest = ',' :: tail) :
    items (fuel + 1) depth cs = (items fuel depth tail).map (fun p => (v :: p.1, p.2)) := by
  simp only [items, h, hrest]

/-- A bracket ends the items. -/
theorem items_of_bracket {cs rest tail : List Char} {v : Json} (fuel depth : Nat)
    (h : value fuel depth cs = some (v, rest)) (hrest : skipSpace rest = ']' :: tail) :
    items (fuel + 1) depth cs = some ([v], tail) := by
  simp only [items, h, hrest]

/-- Behind a comma the members go on. -/
theorem memberList_of_comma {cs r₁ r₂ r₃ r₄ tail name : List Char} {v : Json} (fuel depth : Nat)
    (h : skipSpace cs = '"' :: r₁) (hname : stringTail r₁ = some (name, r₂))
    (hcolon : skipSpace r₂ = ':' :: r₃) (hvalue : value fuel depth r₃ = some (v, r₄))
    (hcomma : skipSpace r₄ = ',' :: tail) :
    memberList (fuel + 1) depth cs =
      (memberList fuel depth tail).map (fun p => ((String.ofList name, v) :: p.1, p.2)) := by
  simp only [memberList, h, hname, hcolon, hvalue, hcomma]

/-- A brace ends the members. -/
theorem memberList_of_brace {cs r₁ r₂ r₃ r₄ tail name : List Char} {v : Json} (fuel depth : Nat)
    (h : skipSpace cs = '"' :: r₁) (hname : stringTail r₁ = some (name, r₂))
    (hcolon : skipSpace r₂ = ':' :: r₃) (hvalue : value fuel depth r₃ = some (v, r₄))
    (hbrace : skipSpace r₄ = '}' :: tail) :
    memberList (fuel + 1) depth cs = some ([(String.ofList name, v)], tail) := by
  simp only [memberList, h, hname, hcolon, hvalue, hbrace]

/-- A space is skipped. -/
theorem skipSpace_space (cs : List Char) : skipSpace (' ' :: cs) = skipSpace cs := rfl

/-- A string value reads back, also behind space. -/
theorem value_of_stringText {cs rest : List Char} (fuel depth : Nat) (s : String)
    (h : skipSpace cs = skipSpace (stringText escapeChar s ++ rest)) :
    value (fuel + 1) depth cs = some (str s, rest) := by
  rw [value_of_quote fuel depth (h.trans (skipSpace_stringText s rest)), stringTail_flatMap,
    Option.map_some, String.ofList_toList]

end SecretSync.Json
