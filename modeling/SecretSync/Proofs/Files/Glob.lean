import SecretSync.Files.Glob
import SecretSync.Proofs.Text.Pattern

/-!
# Names that begin as a pattern says

A name with a star behind it is taken as a pattern.  Which texts have it is told by rules on the
characters of both.  They are the texts that begin with the name, unless it holds a character that
stands for others: then some name of a file has the pattern without beginning so, or begins so
without having it.
-/

namespace SecretSync.Files.Glob

variable {name text rest body behind : List Char} {c : Char} {fuel : Nat}

/-! ### Brackets -/

private theorem ne_closing (hinner : ']' ∉ rest) : ∀ c ∈ rest, (c != ']') = true := by
  intro c hc
  rw [bne_iff_ne]
  rintro rfl
  exact hinner hc

private theorem closedClass?_of_not_mem (front : List Char) (h : ']' ∉ rest) :
    closedClass? front rest = none := by
  have hdrop : (rest ++ []).dropWhile (· != ']') = [] :=
    List.dropWhile_append_of_pos (ne_closing h)
  rw [List.append_nil] at hdrop
  rw [closedClass?, hdrop]

/-- A class is closed by the first bracket that can close it. -/
theorem closedClass?_append (front behind : List Char) (h : ']' ∉ rest) :
    closedClass? front (rest ++ ']' :: behind) = some (front ++ rest, behind) := by
  have hdrop : (rest ++ ']' :: behind).dropWhile (· != ']') = ']' :: behind :=
    List.dropWhile_append_of_pos (ne_closing h)
  have htake : (rest ++ ']' :: behind).takeWhile (· != ']') = rest := by
    rw [List.takeWhile_append_of_pos (ne_closing h)]
    exact List.append_nil rest
  rw [closedClass?, hdrop, htake]

private theorem closedClass?_eq_some {front : List Char}
    (h : closedClass? front rest = some (body, behind)) :
    front ++ rest = body ++ ']' :: behind ∧ front.length ≤ body.length ∧
      (front = [] → rest.head? ≠ some ']' → body ≠ []) := by
  by_cases hclosing : ']' ∈ rest
  · obtain ⟨inner, behind', rfl, hinner⟩ := List.eq_append_cons_of_mem hclosing
    rw [closedClass?_append front behind' hinner] at h
    cases h
    refine ⟨(List.append_assoc ..).symm, by simp, ?_⟩
    rintro rfl hhead rfl
    exact hhead rfl
  · rw [closedClass?_of_not_mem front hclosing] at h
    cases h

/-- A star at the end closes no class. -/
theorem closedClass?_append_star (front rest : List Char) :
    closedClass? front (rest ++ ['*']) =
      (closedClass? front rest).map (fun cut => (cut.1, cut.2 ++ ['*'])) := by
  by_cases hclosing : ']' ∈ rest
  · obtain ⟨inner, behind, rfl, hinner⟩ := List.eq_append_cons_of_mem hclosing
    rw [List.append_assoc, List.cons_append, closedClass?_append front _ hinner,
      closedClass?_append front _ hinner]
    rfl
  · have hstar : ']' ∉ rest ++ ['*'] := by simp [hclosing]
    rw [closedClass?_of_not_mem front hstar, closedClass?_of_not_mem front hclosing]
    rfl

/-- A class stands in front of its closing bracket, and is not empty. -/
theorem bracket?_eq_some (h : bracket? rest = some (body, behind)) :
    rest = body ++ ']' :: behind ∧ body ≠ [] := by
  unfold bracket? at h
  split at h
  · obtain ⟨hwhole, hlength, -⟩ := closedClass?_eq_some h
    exact ⟨hwhole, by rintro rfl; simp at hlength⟩
  · obtain ⟨hwhole, hlength, -⟩ := closedClass?_eq_some h
    exact ⟨hwhole, by rintro rfl; simp at hlength⟩
  · obtain ⟨hwhole, hlength, -⟩ := closedClass?_eq_some h
    exact ⟨hwhole, by rintro rfl; simp at hlength⟩
  · next hclosing =>
    obtain ⟨hwhole, -, hfull⟩ := closedClass?_eq_some h
    refine ⟨hwhole, hfull rfl (fun hhead => ?_)⟩
    obtain ⟨rest', rfl⟩ := List.head?_eq_some_iff.mp hhead
    exact hclosing rest' rfl

private theorem bracket?_cons (hmark : c ≠ '!') (hc : c ≠ ']') (rest : List Char) :
    bracket? (c :: rest) = closedClass? [] (c :: rest) := by
  simp [bracket?, hmark, hc]

private theorem bracket?_mark_cons (hc : c ≠ ']') (rest : List Char) :
    bracket? ('!' :: c :: rest) = closedClass? ['!'] (c :: rest) := by
  simp [bracket?, hc]

private theorem bracket?_append_star (rest : List Char) :
    bracket? (rest ++ ['*']) = (bracket? rest).map (fun cut => (cut.1, cut.2 ++ ['*'])) := by
  cases rest with
  | nil => rfl
  | cons c rest =>
    by_cases hmark : c = '!'
    · subst hmark
      cases rest with
      | nil => rfl
      | cons d rest =>
        by_cases hd : d = ']'
        · subst hd
          exact closedClass?_append_star ['!', ']'] rest
        · rw [bracket?_mark_cons hd]
          exact (bracket?_mark_cons hd _).trans (closedClass?_append_star ['!'] (d :: rest))
    · by_cases hc : c = ']'
      · subst hc
        exact closedClass?_append_star [']'] rest
      · rw [bracket?_cons hmark hc]
        exact (bracket?_cons hmark hc _).trans (closedClass?_append_star [] (c :: rest))

/-- Whether a bracket that stands in front of some characters is closed: there is a closing one
among them, behind a first one that belongs to the class, and behind a mark for all others. -/
def closes : List Char → Bool
  | '!' :: rest => rest.tail.contains ']'
  | rest => rest.tail.contains ']'

private theorem closedClass?_eq_none_iff {front : List Char} :
    closedClass? front rest = none ↔ rest.contains ']' = false := by
  rw [Bool.eq_false_iff, ne_eq, List.contains_iff_mem]
  constructor
  · intro h hclosing
    obtain ⟨inner, behind, rfl, hinner⟩ := List.eq_append_cons_of_mem hclosing
    rw [closedClass?_append front behind hinner] at h
    cases h
  · exact closedClass?_of_not_mem front

private theorem contains_tail (hc : c ≠ ']') (rest : List Char) :
    (c :: rest).contains ']' = rest.contains ']' := by
  simp [Ne.symm hc]

private theorem bracket?_eq_none_iff : bracket? rest = none ↔ closes rest = false := by
  cases rest with
  | nil => exact iff_of_true rfl rfl
  | cons c rest =>
    by_cases hmark : c = '!'
    · subst hmark
      cases rest with
      | nil => exact iff_of_true rfl rfl
      | cons d rest =>
        by_cases hd : d = ']'
        · subst hd
          exact closedClass?_eq_none_iff
        · rw [bracket?_mark_cons hd, closedClass?_eq_none_iff, contains_tail hd]
          rfl
    · have hcloses : closes (c :: rest) = rest.contains ']' := by simp [closes, hmark]
      by_cases hc : c = ']'
      · subst hc
        rw [hcloses]
        exact closedClass?_eq_none_iff
      · rw [bracket?_cons hmark hc, closedClass?_eq_none_iff, contains_tail hc, hcloses]

/-! ### The rules -/

/-- A character belongs to a class. -/
def InClass (body : List Char) (c : Char) : Prop := (classPattern body).accepts [c] = true

/-- A character that stands for itself in front of others. -/
def StandsForItself (c : Char) (rest : List Char) : Prop :=
  c ≠ '*' ∧ c ≠ '?' ∧ (c = '[' → bracket? rest = none)

/-- A text has the pattern of a name with a star behind it. -/
inductive Begins : List Char → List Char → Prop
  | nil (text : List Char) : Begins [] text
  | star {rest text : List Char} (skipped : List Char) (begins : Begins rest text) :
    Begins ('*' :: rest) (skipped ++ text)
  | any {rest text : List Char} (c : Char) (begins : Begins rest text) :
    Begins ('?' :: rest) (c :: text)
  | among {rest body behind text : List Char} {c : Char}
    (closed : bracket? rest = some (body, behind)) (among : InClass body c)
    (begins : Begins behind text) : Begins ('[' :: rest) (c :: text)
  | same {rest text : List Char} {c : Char} (plain : StandsForItself c rest)
    (begins : Begins rest text) : Begins (c :: rest) (c :: text)

private theorem begins_star : Begins ('*' :: rest) text ↔
    ∃ skipped behind, text = skipped ++ behind ∧ Begins rest behind := by
  constructor
  · intro h
    cases h with
    | star skipped begins => exact ⟨skipped, _, rfl, begins⟩
    | same plain => exact absurd rfl plain.1
  · rintro ⟨skipped, behind, rfl, begins⟩
    exact .star skipped begins

private theorem begins_any : Begins ('?' :: rest) text ↔
    ∃ c behind, text = c :: behind ∧ Begins rest behind := by
  constructor
  · intro h
    cases h with
    | any c begins => exact ⟨c, _, rfl, begins⟩
    | same plain => exact absurd rfl plain.2.1
  · rintro ⟨c, behind, rfl, begins⟩
    exact .any c begins

private theorem begins_among (closed : bracket? rest = some (body, behind)) :
    Begins ('[' :: rest) text ↔
      ∃ c more, text = c :: more ∧ InClass body c ∧ Begins behind more := by
  constructor
  · intro h
    cases h with
    | among closed' among begins =>
      cases closed.symm.trans closed'
      exact ⟨_, _, rfl, among, begins⟩
    | same plain => cases closed.symm.trans (plain.2.2 rfl)
  · rintro ⟨c, more, rfl, among, begins⟩
    exact .among closed among begins

private theorem begins_same (plain : StandsForItself c rest) :
    Begins (c :: rest) text ↔ ∃ behind, text = c :: behind ∧ Begins rest behind := by
  constructor
  · intro h
    cases h with
    | star => exact absurd rfl plain.1
    | any => exact absurd rfl plain.2.1
    | among closed => cases closed.symm.trans (plain.2.2 rfl)
    | same _ begins => exact ⟨_, rfl, begins⟩
  · rintro ⟨behind, rfl, begins⟩
    exact .same plain begins

private theorem standsForItself_or (c : Char) (rest : List Char) :
    StandsForItself c rest ∨ c = '*' ∨ c = '?' ∨
      c = '[' ∧ ∃ body behind, bracket? rest = some (body, behind) := by
  by_cases hstar : c = '*'
  · exact Or.inr (Or.inl hstar)
  by_cases hany : c = '?'
  · exact Or.inr (Or.inr (Or.inl hany))
  by_cases hopens : c = '['
  · cases hbracket : bracket? rest with
    | none => exact Or.inl ⟨hstar, hany, fun _ => hbracket⟩
    | some cut => exact Or.inr (Or.inr (Or.inr ⟨hopens, cut.1, cut.2, rfl⟩))
  · exact Or.inl ⟨hstar, hany, fun h => absurd h hopens⟩

/-! ### Matching -/

private theorem exists_classPattern (body : List Char) : ∃ p, classPattern body = .char p := by
  unfold classPattern
  split
  · exact ⟨_, rfl⟩
  · split
    · exact ⟨_, rfl⟩
    · exact ⟨_, rfl⟩

/-- Matching one character and then a pattern takes the first character of the name. -/
theorem accepts_char_append {p : Char → Bool} {q : Text.Pattern} :
    (Text.Pattern.char p ++ q).accepts name = true ↔
      ∃ c rest, name = c :: rest ∧ p c = true ∧ q.accepts rest = true := by
  rw [Text.Pattern.accepts_append]
  constructor
  · rintro ⟨front, rest, rfl, hfront, hrest⟩
    obtain ⟨c, hc, rfl⟩ := Text.Pattern.accepts_char.mp hfront
    exact ⟨c, rest, rfl, hc, hrest⟩
  · rintro ⟨c, rest, rfl, hc, hrest⟩
    exact ⟨[c], rest, rfl, Text.Pattern.accepts_char.mpr ⟨c, hc, rfl⟩, hrest⟩

private theorem accepts_same_append {q : Text.Pattern} :
    (Text.Pattern.char (· == c) ++ q).accepts name = true ↔
      ∃ rest, name = c :: rest ∧ q.accepts rest = true := by
  rw [accepts_char_append]
  constructor
  · rintro ⟨d, rest, rfl, hd, hrest⟩
    exact ⟨rest, by rw [beq_iff_eq.mp hd], hrest⟩
  · rintro ⟨rest, rfl, hrest⟩
    exact ⟨c, rest, rfl, beq_self_eq_true c, hrest⟩

private theorem accepts_class_append {q : Text.Pattern} :
    (classPattern body ++ q).accepts name = true ↔
      ∃ c rest, name = c :: rest ∧ InClass body c ∧ q.accepts rest = true := by
  obtain ⟨p, hp⟩ := exists_classPattern body
  have hmember (c : Char) : InClass body c ↔ p c = true := by
    rw [InClass, hp, Text.Pattern.accepts_char]
    constructor
    · rintro ⟨d, hd, heq⟩
      rw [(List.cons.inj heq).1]
      exact hd
    · intro h
      exact ⟨c, h, rfl⟩
  rw [hp, accepts_char_append]
  simp only [hmember]

/-- Matching follows the rules, given a round for every character and one more. -/
theorem accepts_ofText (hfuel : rest.length + 1 < fuel) :
    (ofText fuel (rest ++ ['*'])).accepts text = true ↔ Begins rest text := by
  induction fuel generalizing rest text with
  | zero => exact absurd hfuel (Nat.not_lt_zero _)
  | succ fuel ih =>
    cases rest with
    | nil =>
      refine iff_of_true ?_ (.nil text)
      exact Text.Pattern.accepts_append.mpr ⟨text, [], (List.append_nil text).symm,
        Text.Pattern.accepts_anything text, by cases fuel <;> rfl⟩
    | cons c rest =>
      rw [List.length_cons] at hfuel
      have hrest : rest.length + 1 < fuel := by omega
      rw [List.cons_append]
      unfold ofText
      split
      · next hstar =>
        subst hstar
        rw [Text.Pattern.accepts_append, begins_star]
        constructor
        · rintro ⟨skipped, behind, rfl, -, h⟩
          exact ⟨skipped, behind, rfl, (ih hrest).mp h⟩
        · rintro ⟨skipped, behind, rfl, h⟩
          exact ⟨skipped, behind, rfl, Text.Pattern.accepts_anything skipped, (ih hrest).mpr h⟩
      split
      · next hany =>
        subst hany
        rw [accepts_char_append, begins_any]
        simp only [true_and, ih hrest]
      split
      · next hopens =>
        subst hopens
        rw [bracket?_append_star]
        cases hbracket : bracket? rest with
        | none =>
          have hplain : StandsForItself '[' rest := ⟨by decide, by decide, fun _ => hbracket⟩
          rw [Option.map_none, accepts_same_append, begins_same hplain]
          simp only [ih hrest]
        | some cut =>
          -- What stands behind a class is shorter than the rounds that are left.
          have hlength := congrArg List.length (bracket?_eq_some hbracket).1
          rw [List.length_append, List.length_cons] at hlength
          have hbehind : cut.2.length + 1 < fuel := by omega
          rw [Option.map_some, accepts_class_append, begins_among hbracket]
          simp only [ih hbehind]
      · next hstar hany hopens =>
        have hplain : StandsForItself c rest := ⟨hstar, hany, fun h => absurd h hopens⟩
        rw [accepts_same_append, begins_same hplain]
        simp only [ih hrest]

/-- What has the pattern of a name with a star behind it is told by the rules. -/
theorem accepts_iff_begins (name text : List Char) :
    accepts (String.ofList (name ++ ['*'])) (String.ofList text) = true ↔ Begins name text := by
  unfold accepts
  rw [String.toList_ofList, String.toList_ofList]
  exact accepts_ofText (by simp)

/-! ### Plain names -/

/-- Nothing in a name stands for other characters: it has no star, no question mark, and no bracket
that is closed. -/
def isPlain : List Char → Bool
  | [] => true
  | c :: rest => c != '*' && c != '?' && !(c == '[' && closes rest) && isPlain rest

/-- A name is plain exactly if its first character stands for itself and the rest is plain. -/
theorem isPlain_cons : isPlain (c :: rest) = true ↔
    StandsForItself c rest ∧ isPlain rest = true := by
  rw [isPlain, StandsForItself, bracket?_eq_none_iff]
  by_cases hopens : c = '['
  · subst hopens
    simp
  · simp [hopens, and_assoc]

/-- A plain name, taken as a pattern, is a front of the text. -/
theorem begins_of_isPlain (plain : isPlain name = true) : Begins name text ↔ name <+: text := by
  induction name generalizing text with
  | nil => exact iff_of_true (.nil text) List.nil_prefix
  | cons c rest ih =>
    obtain ⟨hself, hrest⟩ := isPlain_cons.mp plain
    rw [begins_same hself]
    constructor
    · rintro ⟨behind, rfl, h⟩
      exact List.cons_prefix_cons.mpr ⟨rfl, (ih hrest).mp h⟩
    · rintro ⟨behind, rfl⟩
      exact ⟨rest ++ behind, rfl, (ih hrest).mpr (List.prefix_append rest behind)⟩

/-! ### Names that are not plain -/

/-- A character that names of files can have. -/
def IsNameChar (c : Char) : Prop := c ≠ '/' ∧ c ≠ '\x00'

/-- A name that a file can have. -/
structure IsFileName (name : List Char) : Prop where
  chars : ∀ c ∈ name, IsNameChar c
  full : name ≠ []
  not_here : name ≠ ['.']
  not_above : name ≠ ['.', '.']

private theorem isNameChar_letter : IsNameChar 'a' := ⟨by decide, by decide⟩

/-- A name that does not begin with a point is a file's name. -/
theorem isFileName_of_ne_point (hc : c ≠ '.') (hchars : ∀ d ∈ c :: rest, IsNameChar d) :
    IsFileName (c :: rest) where
  chars := hchars
  full := List.cons_ne_nil c rest
  not_here := fun h => hc (List.cons.inj h).1
  not_above := fun h => hc (List.cons.inj h).1

private theorem isFileName_append_letter (hchars : ∀ c ∈ name, IsNameChar c) :
    IsFileName (name ++ ['a']) where
  chars := List.forall_mem_append.mpr ⟨hchars, List.forall_mem_singleton.mpr isNameChar_letter⟩
  full := by simp
  not_here := fun h => by simpa using congrArg List.getLast? h
  not_above := fun h => by simpa using congrArg List.getLast? h

/-- One more character before a file's name is a file's name. -/
theorem IsFileName.cons (hc : IsNameChar c) (h : IsFileName name) : IsFileName (c :: name) where
  chars := List.forall_mem_cons.mpr ⟨hc, h.chars⟩
  full := List.cons_ne_nil c name
  not_here := fun heq => h.full (List.cons.inj heq).2
  not_above := fun heq => h.not_here (List.cons.inj heq).2

private theorem Begins.append (begins : Begins name text) (more : List Char) :
    Begins name (text ++ more) := by
  induction begins with
  | nil text => exact .nil _
  | star skipped begins ih =>
    rw [List.append_assoc]
    exact .star skipped ih
  | any c begins ih => exact .any c ih
  | among closed among begins ih => exact .among closed among ih
  | same plain begins ih => exact .same plain ih

/-- If some text has the pattern of a name with a star behind it, one does that is no longer than
the name and has no other characters. -/
theorem Begins.exists_short (begins : Begins name text) :
    ∃ short, short ⊆ text ∧ short.length ≤ name.length ∧ Begins name short := by
  induction begins with
  | nil text => exact ⟨[], List.nil_subset text, Nat.le_refl 0, .nil []⟩
  | star skipped begins ih =>
    obtain ⟨short, hsubset, hle, h⟩ := ih
    exact ⟨short, List.subset_append_of_subset_right skipped hsubset, Nat.le_succ_of_le hle,
      .star [] h⟩
  | any c begins ih =>
    obtain ⟨short, hsubset, hle, h⟩ := ih
    exact ⟨c :: short, List.cons_subset_cons c hsubset, Nat.succ_le_succ hle, .any c h⟩
  | @among _ _ _ _ c closed among begins ih =>
    obtain ⟨short, hsubset, hle, h⟩ := ih
    have hlength := congrArg List.length (bracket?_eq_some closed).1
    rw [List.length_append, List.length_cons] at hlength
    refine ⟨c :: short, List.cons_subset_cons c hsubset, ?_, .among closed among h⟩
    rw [List.length_cons, List.length_cons]
    omega
  | @same _ _ c plain begins ih =>
    obtain ⟨short, hsubset, hle, h⟩ := ih
    exact ⟨c :: short, List.cons_subset_cons c hsubset, Nat.succ_le_succ hle, .same plain h⟩

/-- The pattern of a name and the texts that begin with the name differ at the name of a file. -/
def Differs (name text : List Char) : Prop :=
  IsFileName text ∧ ¬ (Begins name text ↔ name <+: text)

/-- Names that differ behind an equal character differ. -/
theorem Differs.cons (hc : IsNameChar c) (plain : StandsForItself c rest) (h : Differs rest text) :
    Differs (c :: rest) (c :: text) := by
  refine ⟨h.1.cons hc, fun heq => h.2 ?_⟩
  rw [begins_same plain, List.cons_prefix_cons] at heq
  simpa using heq

/-- A name begins with itself, also if no name of a file has its pattern. -/
theorem differs_self (hname : IsFileName name) (hnone : ¬ Begins name name) : Differs name name :=
  ⟨hname, fun heq => hnone (heq.mpr (List.prefix_refl name))⟩

/-- Another character at the front is not the begin of the name. -/
theorem differs_of_letter (hc : c ≠ 'a') (hchars : ∀ d ∈ behind, IsNameChar d)
    (begins : Begins (c :: rest) ('a' :: behind)) : Differs (c :: rest) ('a' :: behind) := by
  refine ⟨isFileName_of_ne_point (by decide)
    (List.forall_mem_cons.mpr ⟨isNameChar_letter, hchars⟩), fun hiff => ?_⟩
  exact hc (List.cons_prefix_cons.mp (hiff.mp begins)).1

/-- A class takes one character for at least three. -/
theorem exists_differs_of_among (hchars : ∀ c ∈ '[' :: rest, IsNameChar c)
    (closed : bracket? rest = some (body, behind)) (begins : Begins ('[' :: rest) ('[' :: rest)) :
    ∃ text, Differs ('[' :: rest) text := by
  obtain ⟨c, more, heq, among, hmore⟩ := (begins_among closed).mp begins
  obtain ⟨short, hsubset, hle, hshort⟩ := hmore.exists_short
  obtain ⟨hrest, hfull⟩ := bracket?_eq_some closed
  have hlength := congrArg List.length hrest
  have hbody := List.length_pos_iff.mpr hfull
  rw [List.length_append, List.length_cons] at hlength
  have hshortChars : ∀ d ∈ short, IsNameChar d := by
    intro d hd
    apply hchars d
    rw [heq]
    exact List.mem_cons_of_mem c (hsubset hd)
  have hc : IsNameChar c := by
    apply hchars c
    rw [heq]
    exact List.mem_cons_self
  have hlast : IsFileName (short ++ ['a']) := isFileName_append_letter hshortChars
  refine ⟨c :: (short ++ ['a']), hlast.cons hc, fun hiff => ?_⟩
  have hprefix := hiff.mp (.among closed among (hshort.append ['a']))
  have hlong := hprefix.length_le
  rw [List.length_cons, List.length_cons, List.length_append, List.length_singleton] at hlong
  omega

/-- Where something in a name stands for other characters, its pattern is not the begin of names. -/
theorem exists_differs (hchars : ∀ c ∈ name, IsNameChar c) (unplain : isPlain name = false) :
    ∃ text, Differs name text := by
  induction name with
  | nil => cases unplain
  | cons c rest ih =>
    obtain ⟨hc, hrest⟩ := List.forall_mem_cons.mp hchars
    by_cases hself : StandsForItself c rest
    · have hunplain : isPlain rest = false :=
        Bool.eq_false_iff.mpr (fun hplain =>
          Bool.eq_false_iff.mp unplain (isPlain_cons.mpr ⟨hself, hplain⟩))
      obtain ⟨text, htext⟩ := ih hrest hunplain
      exact ⟨c :: text, htext.cons hc hself⟩
    have hspecial := (standsForItself_or c rest).resolve_left hself
    -- A name that does not have its own pattern differs there.  Otherwise what stands for the first
    -- character of the name can stand for another one, or a class has taken one for several.
    by_cases hown : Begins (c :: rest) (c :: rest)
    case neg =>
      refine ⟨c :: rest, differs_self (isFileName_of_ne_point ?_ hchars) hown⟩
      rintro rfl
      simp at hspecial
    obtain rfl | rfl | ⟨rfl, body, behind, closed⟩ := hspecial
    · obtain ⟨skipped, behind, heq, hbehind⟩ := begins_star.mp hown
      rw [heq] at hchars
      exact ⟨'a' :: behind, differs_of_letter (by decide) (List.forall_mem_append.mp hchars).2
        (.star ['a'] hbehind)⟩
    · obtain ⟨d, behind, heq, hbehind⟩ := begins_any.mp hown
      rw [heq] at hchars
      exact ⟨'a' :: behind, differs_of_letter (by decide) (List.forall_mem_cons.mp hchars).2
        (.any 'a' hbehind)⟩
    · exact exists_differs_of_among hchars closed hown

end SecretSync.Files.Glob
