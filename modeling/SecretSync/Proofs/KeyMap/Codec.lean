import SecretSync.Proofs.Json.Layout
import SecretSync.Secret.Annotation

/-!
# The text of a key map

A key map reads back from its text: no line is lost, changed or moved, whatever characters its ids
and keys have.
-/

namespace SecretSync.KeyMap

open Json

private theorem indentedAt_toJson (l : Mapping) (level : Nat) (rest : List Char) :
    indentedAt level l.toJson ++ rest =
      '{' :: (newline (level + 1) ++ (stringText escapeChar "bwSecretId" ++
        (':' :: ' ' :: (stringText escapeChar l.secretId ++
          (',' :: (newline (level + 1) ++ (stringText escapeChar "secretKeyName" ++
            (':' :: ' ' :: (stringText escapeChar l.keyName ++
              (newline level ++ '}' :: rest)))))))))) := by
  simp only [Mapping.toJson, indentedAt, indentedMembers, List.cons_append, List.append_assoc,
    List.nil_append]

/-- A line reads back, also behind space. -/
theorem value_toJson {cs rest : List Char} (fuel depth level : Nat) (l : Mapping)
    (h : skipSpace cs = skipSpace (indentedAt level l.toJson ++ rest)) :
    value (fuel + 4) (depth + 1) cs = some (l.toJson, rest) := by
  rw [indentedAt_toJson, skipSpace_cons rfl] at h
  -- The members are read from the last to the first.
  have hlast : memberList (fuel + 2) depth
      (newline (level + 1) ++ (stringText escapeChar "secretKeyName" ++
        (':' :: ' ' :: (stringText escapeChar l.keyName ++ (newline level ++ '}' :: rest))))) =
      some ([("secretKeyName", str l.keyName)], rest) := by
    have hname := (skipSpace_newline (level + 1) _).trans
      (skipSpace_stringText "secretKeyName"
        (':' :: ' ' :: (stringText escapeChar l.keyName ++ (newline level ++ '}' :: rest))))
    have hbrace : skipSpace (newline level ++ '}' :: rest) = '}' :: rest := by
      rw [skipSpace_newline, skipSpace_cons rfl]
    rw [memberList_of_brace (fuel + 1) depth hname (stringTail_flatMap _ _)
      (skipSpace_cons rfl _) (value_of_stringText fuel depth l.keyName (skipSpace_space _)) hbrace,
      String.ofList_toList]
  have hfirst : memberList (fuel + 3) depth
      ('"' :: ("bwSecretId".toList.flatMap escapeChar ++ '"' ::
        (':' :: ' ' :: (stringText escapeChar l.secretId ++
          (',' :: (newline (level + 1) ++ (stringText escapeChar "secretKeyName" ++
            (':' :: ' ' :: (stringText escapeChar l.keyName ++
              (newline level ++ '}' :: rest)))))))))) =
      some ([("bwSecretId", str l.secretId), ("secretKeyName", str l.keyName)], rest) := by
    rw [memberList_of_comma (fuel + 2) depth (skipSpace_cons rfl _) (stringTail_flatMap _ _)
      (skipSpace_cons rfl _)
      (value_of_stringText (fuel + 1) depth l.secretId (skipSpace_space _))
      (skipSpace_cons rfl _), hlast, String.ofList_toList]
    rfl
  have hopen : skipSpace (newline (level + 1) ++ (stringText escapeChar "bwSecretId" ++
      (':' :: ' ' :: (stringText escapeChar l.secretId ++
        (',' :: (newline (level + 1) ++ (stringText escapeChar "secretKeyName" ++
          (':' :: ' ' :: (stringText escapeChar l.keyName ++
            (newline level ++ '}' :: rest)))))))))) = _ :=
    (skipSpace_newline (level + 1) _).trans (skipSpace_stringText "bwSecretId" _)
  rw [value_of_brace (fuel + 3) depth h hopen (by decide), hfirst]
  rfl

private theorem items_toJson (fuel depth level : Nat) (l : Mapping) (m : List Mapping)
    (rest : List Char) (hfuel : m.length ≤ fuel) {cs : List Char}
    (h : skipSpace cs = skipSpace (indentedAt (level + 1) l.toJson ++
      (indentedItems (level + 1) (m.map Mapping.toJson) ++ (newline level ++ ']' :: rest)))) :
    items (fuel + 5) (depth + 1) cs = some (l.toJson :: m.map Mapping.toJson, rest) := by
  induction m generalizing fuel l cs with
  | nil =>
    refine items_of_bracket (fuel + 4) (depth + 1) (value_toJson fuel depth (level + 1) l h) ?_
    rw [List.map_nil, indentedItems, List.nil_append, skipSpace_newline, skipSpace_cons rfl]
  | cons l' m ih =>
    obtain ⟨fuel, rfl⟩ : ∃ n, fuel = n + 1 := ⟨fuel - 1, by
      simp only [List.length_cons] at hfuel; omega⟩
    simp only [List.length_cons] at hfuel
    simp only [List.map_cons, indentedItems, List.cons_append, List.append_assoc] at h
    rw [items_of_comma (fuel + 5) (depth + 1) (value_toJson (fuel + 1) depth (level + 1) l h)
      (skipSpace_cons rfl _), ih fuel l' (by omega) (skipSpace_newline _ _)]
    rfl

private theorem length_indentedItems (level : Nat) (vs : List Json) :
    vs.length ≤ (indentedItems level vs).length := by
  induction vs with
  | nil => exact Nat.zero_le _
  | cons v vs ih =>
    simp only [indentedItems, List.length_append, List.length_cons]
    omega

private theorem length_indentedAt (level : Nat) (l : Mapping) :
    5 ≤ (indentedAt level l.toJson).length := by
  have h := congrArg List.length (indentedAt_toJson l level [])
  simp only [List.length_append, List.length_cons, List.append_nil] at h
  omega

private theorem value_indentedAt (m : KeyMap) :
    value ((indentedAt 0 m.toJson).length + 1) maxDepth (indentedAt 0 m.toJson) =
      some (m.toJson, []) := by
  cases m with
  | nil => exact value_of_empty_brackets _ _ (skipSpace_cons rfl _) (skipSpace_cons rfl _)
  | cons l m =>
    have htext : indentedAt 0 (KeyMap.toJson (l :: m)) =
        '[' :: (newline 1 ++ (indentedAt 1 l.toJson ++
          (indentedItems 1 (m.map Mapping.toJson) ++ (newline 0 ++ [']'])))) := by
      simp only [KeyMap.toJson, List.map_cons, indentedAt, List.cons_append, List.append_assoc]
    have hlength : m.length + 5 ≤ (indentedAt 0 (KeyMap.toJson (l :: m))).length := by
      have hl := length_indentedAt 1 l
      have hm := length_indentedItems 1 (m.map Mapping.toJson)
      rw [List.length_map] at hm
      rw [htext]
      simp only [List.length_append, List.length_cons]
      omega
    obtain ⟨fuel, hfuel⟩ : ∃ n, (indentedAt 0 (KeyMap.toJson (l :: m))).length = n + 5 :=
      ⟨_, (Nat.sub_add_cancel (Nat.le_of_add_left_le hlength)).symm⟩
    have hopen := (congrArg skipSpace (indentedAt_toJson l 1
      (indentedItems 1 (m.map Mapping.toJson) ++ (newline 0 ++ [']'])))).trans
        (skipSpace_cons rfl _)
    have hitems := items_toJson fuel 198 0 l m [] (by omega)
      ((skipSpace_cons rfl _).trans hopen.symm)
    rw [hfuel, htext, maxDepth, value_of_bracket (fuel + 5) 199 (skipSpace_cons rfl _)
      ((skipSpace_newline 1 _).trans hopen) (by decide), hitems]
    rfl

private theorem parse?_serialize (m : KeyMap) : Json.parse? m.serialize = some m.toJson := by
  rw [Json.parse?, parseWithin?, serialize, indented, String.toList_ofList, value_indentedAt]
  rfl

/-! ### The records -/

private theorem check_toJson (l : Mapping) : Mapping.check l.toJson = .ok l := rfl

private theorem all_lines (m : KeyMap) (start : Nat) :
    Schema.Checked.all (fun p => (Mapping.check p.1).under (.item p.2))
      (((m.map Mapping.toJson).zipIdx start).map (fun p => (p.1, (p.2 : Int)))) = .ok m := by
  induction m generalizing start with
  | nil => rfl
  | cons l m ih =>
    rw [List.map_cons, List.zipIdx_cons, List.map_cons, Schema.Checked.all, ih, check_toJson]
    rfl

/-- The text of a key map holds that key map. -/
theorem parse_serialize (m : KeyMap) : parse m.serialize = .ok m := by
  have hcheck : check m.toJson = .ok m := all_lines m 0
  rw [parse, parse?_serialize]
  dsimp only
  rw [hcheck]
  rfl

/-- The annotation that is written for a key map holds that key map. -/
theorem ofAnnotation_serialize (m : KeyMap) : ofAnnotation m.serialize = .ok m := by
  rw [ ofAnnotation, parse_serialize]
  rfl

end SecretSync.KeyMap
