import SecretSync.Proofs.Secret.Redaction
import SecretSync.Vault.Pull

/-!
# Sessions with the values blacked out

A redacted session answers the request for changes with the same secrets under the same ids, whose
values are the empty text.  What is read from an answer tells nothing else about the values.  Values
that cannot be encoded are no secret material: they stay as they are.
-/

namespace SecretSync

namespace Json

/-- The value with a function applied to the members of a name, if it is an object. -/
def mapMember (name : String) (f : Json → Json) : Json → Json
  | .obj members => .obj (members.map (fun m => (m.1, if m.1 = name then f m.2 else m.2)))
  | value => value

private theorem member?_mapMember (name other : String) (f : Json → Json) (value : Json) :
    (value.mapMember name f).member? other =
      if other = name then (value.member? other).map f else value.member? other := by
  cases value with
  | obj members =>
    change Dict.lookup other (members.map _) =
      if other = name then (Dict.lookup other members).map f else Dict.lookup other members
    induction members with
    | nil => simp [Dict.lookup]
    | cons m members ih =>
      by_cases hm : m.1 = other
      · subst hm
        by_cases hname : m.1 = name <;> simp [Dict.lookup, hname]
      · simp only [List.map_cons, Dict.lookup, if_neg hm, ih]
  | _ => simp [mapMember, member?]

/-- A text blacked out, if it can be encoded. -/
def blank : Json → Json
  | .str s => .str (if Text.hasHalf s then s else "")
  | value => value

end Json

namespace Vault

/-- A secret without its value. -/
def redactedItem : Json → Json := Json.mapMember "value" Json.blank

/-- A list of secrets without their values. -/
def redactedItems : Json → Json
  | .arr items => .arr (items.map redactedItem)
  | value => value

/-- An answer without the values of its secrets. -/
def redactedAnswer : Json → Json := Json.mapMember "secrets" redactedItems

/-- A session without the values of the secrets that it tells. -/
def Session.redacted (s : Session) : Session :=
  { s with sync := { s.sync with data := s.sync.data.map redactedAnswer } }

/-- A secret without its value. -/
def Entry.redacted (e : Entry) : Entry :=
  { e with value := if Text.hasHalf e.value then e.value else "" }

/-- Changes without the values. -/
def Changes.redacted (c : Changes) : Changes := { c with entries := c.entries.map Entry.redacted }

/-- Changed values without their texts. -/
def Delta.redacted (d : Delta) : Delta := { d with values := d.values.mapValues redactedValue }

namespace Changes

private theorem answerKind_mapMember (name : String) (f : Json → Json) (value : Json) :
    answerKind (value.mapMember name f) = answerKind value := by
  cases value <;> rfl

private theorem entryMember_redactedItem (name : String) (item : Json) :
    entryMember name (redactedItem item) =
      (entryMember name item).map (fun value => if name = "value" then value.blank else value) := by
  unfold entryMember redactedItem
  rw [Json.member?_mapMember, answerKind_mapMember]
  by_cases h : name = "value"
  · simp only [if_pos h]
    cases item.member? name <;> rfl
  · simp only [if_neg h]
    cases item.member? name <;> rfl

private theorem readEntry_redactedItem (item : Json) :
    readEntry (redactedItem item) = (readEntry item).map Entry.redacted := by
  unfold readEntry
  rw [entryMember_redactedItem, entryMember_redactedItem]
  cases hid : entryMember "id" item with
  | error e => rfl
  | ok id =>
    cases hvalue : entryMember "value" item with
    | error e => rfl
    | ok value => cases value <;> rfl

private theorem isTruthy_redactedItems (secrets : Json) :
    (redactedItems secrets).isTruthy = secrets.isTruthy := by
  cases secrets with
  | arr list => cases list <;> rfl
  | _ => rfl

private theorem items_redactedItems (secrets : Json) :
    items (redactedItems secrets) = (items secrets).map (List.map redactedItem) := by
  unfold items
  rw [isTruthy_redactedItems]
  by_cases h : (!secrets.isTruthy) = true
  · rw [if_pos h, if_pos h]
    rfl
  · rw [if_neg h, if_neg h]
    cases secrets with
    | str s =>
      -- The characters of a text are no objects, so nothing in them is blacked out.
      have hchars : (s.toList.map (fun c => Json.str (String.singleton c))).map redactedItem =
          s.toList.map (fun c => .str (String.singleton c)) := List.map_map
      exact congrArg Except.ok hchars.symm
    | _ => rfl

private theorem mapM_readEntry (list : List Json) :
    (list.map redactedItem).mapM readEntry =
      (list.mapM readEntry).map (List.map Entry.redacted) := by
  induction list with
  | nil => rfl
  | cons item list ih =>
    rw [List.map_cons, List.mapM_cons, List.mapM_cons, readEntry_redactedItem, ih]
    cases readEntry item with
    | error e => rfl
    | ok entry => cases list.mapM readEntry <;> rfl

/-- What is read from an answer without values is what is read from the answer, without values. -/
theorem ofAnswer_redactedAnswer (answer : Json) :
    ofAnswer (redactedAnswer answer) = (ofAnswer answer).map redacted := by
  have hsecrets : ((redactedAnswer answer).member? "secrets").getD .null =
      redactedItems ((answer.member? "secrets").getD .null) := by
    rw [redactedAnswer, Json.member?_mapMember, if_pos rfl]
    cases answer.member? "secrets" <;> rfl
  have hany : (redactedAnswer answer).member? "has_changes" = answer.member? "has_changes" := by
    rw [redactedAnswer, Json.member?_mapMember, if_neg (by decide)]
  unfold ofAnswer
  rw [hsecrets, hany, items_redactedItems]
  cases items ((answer.member? "secrets").getD .null) with
  | error e => rfl
  | ok list =>
    change (list.map redactedItem).mapM readEntry >>= _ = (list.mapM readEntry >>= _).map _
    rw [mapM_readEntry]
    cases list.mapM readEntry <;> rfl

end Changes

private theorem encode?_redacted (e : Entry) :
    (Text.Utf8.encode? e.redacted.value).map redactedValue =
      (Text.Utf8.encode? e.value).map redactedValue := by
  cases hhalf : Text.hasHalf e.value with
  | true => rw [Entry.redacted, hhalf, if_pos rfl]
  | false =>
    rw [Entry.redacted, hhalf, if_neg Bool.false_ne_true, Text.Utf8.encode?_of_whole hhalf,
      Text.Utf8.encode?_of_whole rfl, Except.map, Except.map, redactedValue_encode,
      redactedValue_encode]

private theorem mapM_encode? (entries : List Entry) :
    ((entries.map Entry.redacted).mapM (fun e => (Text.Utf8.encode? e.value).map (e.id, ·))).map
        (List.map (fun p => (p.1, redactedValue p.2))) =
      (entries.mapM (fun e => (Text.Utf8.encode? e.value).map (e.id, ·))).map
        (List.map (fun p => (p.1, redactedValue p.2))) := by
  induction entries with
  | nil => rfl
  | cons e entries ih =>
    rw [List.map_cons, List.mapM_cons, List.mapM_cons]
    rcases map_eq_map_cases (encode?_redacted e) with
      ⟨error, h, h'⟩ | ⟨octets, octets', h, h', hvalue⟩
    · rw [h, h']
      rfl
    · rw [h, h']
      rcases map_eq_map_cases ih with ⟨error, hrest, hrest'⟩ | ⟨values, values', hrest, hrest', heq⟩
      · rw [hrest, hrest']
        rfl
      · rw [hrest, hrest']
        change Except.ok ((e.id, redactedValue octets) :: values.map _) =
          Except.ok ((e.id, redactedValue octets') :: values'.map _)
        rw [hvalue, heq]

/-- Only the redacted changes matter for what the changed values look like. -/
theorem Delta.redacted_ofChanges (c : Changes) :
    (ofChanges c.redacted).map redacted = (ofChanges c).map redacted := by
  unfold ofChanges
  rcases map_eq_map_cases (mapM_encode? c.entries) with
    ⟨error, h, h'⟩ | ⟨values, values', h, h', heq⟩
  · rw [Changes.redacted, h, h']
  · rw [Changes.redacted, h, h']
    change Except.ok (Delta.mk c.any ((Dict.ofList values).mapValues redactedValue)) =
      Except.ok (Delta.mk c.any ((Dict.ofList values').mapValues redactedValue))
    rw [Dict.mapValues_ofList, Dict.mapValues_ofList, heq]

end Vault
end SecretSync
