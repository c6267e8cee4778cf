import SecretSync.KeyMap.Codec
import SecretSync.Secret.Basic
import SecretSync.Text.Utf8
import SecretSync.Time.Timestamp

/-!
# Sync annotations

Two annotations of a target tell what was last applied to it: when it was written, and by which
key map its values were narrowed and renamed.  The second one is there only while the
declaration has a key map; it lets `Secret.restoreIds` bring the values back to vault ids.
-/

namespace SecretSync

/-- Why annotations cannot be read or written. -/
inductive AnnotationError where
  /-- The key map cannot be written, for this reason. -/
  | unwritable (reason : String)
  /-- The annotation holds no key map. -/
  | unreadable (rejection : Schema.Rejection)
  deriving DecidableEq, Repr

namespace Annotation

/-- The annotation with the time of the last write. -/
def syncTime : String := Declaration.apiGroup ++ "/sync-time"

/-- The annotation with the key map in force. -/
def customMap : String := Declaration.apiGroup ++ "/custom-map"

end Annotation

/-- The text of an annotation error. -/
def AnnotationError.message : AnnotationError → String
  | unwritable reason => "Cannot serialize secret map: " ++ reason
  | unreadable rejection =>
    "Invalid " ++ Annotation.customMap ++ " annotation: " ++ rejection.message

namespace KeyMap

/-- The text of a key map, unless writing is out of order for a reason. -/
def write (fault : Option String) (m : KeyMap) : Except AnnotationError String :=
  match fault with
  | some reason => .error (.unwritable reason)
  | none => .ok m.serialize

/-- Why a key map cannot be written: the first of its texts with halves of surrogate pairs. -/
def writeFault? (m : KeyMap) : Option String :=
  (m.flatMap (fun line => [line.secretId, line.keyName])).findSome? (fun s =>
    (Text.Utf8.halvesFrom? 0 s.toList).map (fun e =>
      "Error serializing to JSON: UnicodeEncodeError: " ++ e.message))

/-- The key map of an annotation. -/
def ofAnnotation (text : String) : Except AnnotationError KeyMap :=
  (parse text).mapError .unreadable

end KeyMap

namespace Secret

/-- Set the annotations for a write under a key map at a time; if the key map cannot be written
the secret stays as it was. -/
def annotate (fault : Option String) (m : Option KeyMap) (now : Time.Instant) (s : Secret) :
    Except AnnotationError Secret := do
  let text ← m.mapM (KeyMap.write fault)
  let annotations := s.annotations.insert Annotation.syncTime (Time.Timestamp.format now)
  return { s with annotations :=
    match text with
    | some text => annotations.insert Annotation.customMap text
    | none => annotations.erase Annotation.customMap }

/-- Bring values that were stored by a key map back to vault ids. -/
def restoreIds (s : Secret) : Except AnnotationError Secret :=
  match s.annotations.get? Annotation.customMap with
  | none => .ok s
  | some text => do
    let m ← KeyMap.ofAnnotation text
    return { s with data := m.restore s.data }

/-- Narrow and rename the values by a key map. -/
def applyMap (m : Option KeyMap) (s : Secret) : Secret :=
  { s with data := KeyMap.applyOptional m s.data }

end Secret
end SecretSync
