import SecretSync.Schema.Record

/-!
# The form of secrets in the cluster

An object that others have written need not have the form of a secret: texts may be missing or be
values of another sort.  Owner references are looked at first, then the metadata, then the rest;
the first of these that has not its form is reported.
-/

namespace SecretSync.SecretForm

open Schema

/-- Something checked, whose value does not matter. -/
def done {α : Type} (checked : Checked α) : Checked Unit := checked.map (fun _ => ())

/-- Issues of several checks together. -/
def both : List (Checked Unit) → Checked Unit
  | [] => .ok ()
  | c :: rest => Checked.seq (c.map (fun _ _ => ())) (both rest)

/-- A truth value. -/
def flag : Json → Checked Unit
  | .bool _ => .ok ()
  | _ => .fault .flagExpected

/-- A value in base64: octets are looked for first, and then a text. -/
def encoded : Json → Checked Unit
  | .str _ => .ok ()
  | _ => .bad ⟨[.member "bytes"], .octetsExpected⟩ [⟨[.member "str"], .textExpected⟩]

/-- An object whose members have a form. -/
def dictionary (check : Json → Checked Unit) : Json → Checked Unit
  | .obj members => both (members.map (fun m => (check m.2).under (.member m.1)))
  | _ => .fault .dictExpected

/-- A member that may be null or absent. -/
def member (members : List (String × Json)) (name : String) (check : Json → Checked Unit) :
    Checked Unit := done (optional members name name check)

/-- An owner reference. -/
def owner (value : Json) : Except Rejection Unit :=
  let m := value.members
  (both [
    done (required m "apiVersion" "api_version" text),
    done (optional m "blockOwnerDeletion" "block_owner_deletion" flag),
    member m "controller" flag,
    done (required m "kind" "kind" text),
    done (required m "name" "name" text),
    done (required m "uid" "uid" text)]).run "V1OwnerReference"

/-- Metadata. -/
def metadata (value : Json) : Except Rejection Unit := do
  let m := value.members
  match Dict.lookup "owner_references" m with
  | some (.arr items) => items.forM owner
  | _ => pure ()
  let words := dictionary (fun v => done (text v))
  (both [member m "annotations" words, member m "labels" words,
    member m "name" (fun v => done (text v)), member m "namespace" (fun v => done (text v)),
    member m "resource_version" (fun v => done (text v)),
    member m "uid" (fun v => done (text v))]).run "V1ObjectMeta"

/-- A secret. -/
def secret (value : Json) : Except Rejection Unit := do
  let m := value.members
  metadata ((Dict.lookup "metadata" m).getD .null)
  (both [member m "data" (dictionary encoded),
    member m "type" (fun v => done (text v))]).run "V1Secret"

/-- What is wrong with the form of an object. -/
def defect? (value : Json) : Option Rejection :=
  match secret value with
  | .ok () => none
  | .error r => some r

end SecretSync.SecretForm
