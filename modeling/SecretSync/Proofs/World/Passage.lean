import SecretSync.Proofs.World.Ends
import SecretSync.Proofs.World.Turns

/-!
# Passages between two writes

Between two writes of the operator others get their turns, time passes, requests are sent and
answered, and the clock is read.  A passage tells the moments at which the operator did something;
the stored objects change in it only by what others do.  A property that all turns of the others
keep is kept by the whole passage.
-/

namespace SecretSync

/-- Whether a call opens a session of the vault. -/
def Call.opensVault : Call → Bool
  | .openVault _ => true
  | _ => false

/-- Whether a session of the vault was opened at a moment. -/
def Moment.opensVault : Moment → Bool
  | .call c _ => c.opensVault
  | .reading _ => false

namespace World

/-- The next session of the vault. -/
def session (w : World) : Vault.Session := w.sessions.headD Vault.Session.quiet

/-- The world without the next session of the vault. -/
def sessionTaken (w : World) : World := { w with sessions := w.sessions.tail }

/-- Two worlds differ at most in the clock and in what the operator keeps no account of. -/
structure SameAccount (v u : World) : Prop where
  declarations : u.declarations = v.declarations
  secrets : u.secrets = v.secrets
  version : u.version = v.version
  sessions : u.sessions = v.sessions
  mapFault : u.mapFault = v.mapFault
  others : u.others = v.others
  history : u.history = v.history

/-- A log record in front of a turn is of no account. -/
theorem SameAccount.behindLog {record : LogRecord} {w v : World} {c : Call}
    (h : ((w.logged record).interlude.noted c).SameAccount v) :
    (w.interlude.noted c).SameAccount v := by
  rcases interlude_logged record w with ⟨logs, hlogs⟩
  rw [hlogs] at h
  exact ⟨h.declarations, h.secrets, h.version, h.sessions, h.mapFault, h.others, h.history⟩

/-- Two worlds differ at most in what others may change. -/
structure SameInside (v u : World) : Prop where
  version : u.version = v.version
  sessions : u.sessions = v.sessions
  mapFault : u.mapFault = v.mapFault
  history : u.history = v.history

namespace SameInside

/-- A world is the same inside as itself. -/
theorem refl (w : World) : w.SameInside w := ⟨rfl, rfl, rfl, rfl⟩

/-- Sameness inside goes on through a third world. -/
theorem trans {u v w : World} (h : u.SameInside v) (h' : v.SameInside w) : u.SameInside w :=
  ⟨h'.version.trans h.version, h'.sessions.trans h.sessions, h'.mapFault.trans h.mapFault,
    h'.history.trans h.history⟩

end SameInside

/-- A deed of others leaves the inside. -/
theorem sameInside_disturb (w : World) (deed : Disturbance) : w.SameInside (w.disturb deed) := by
  cases deed with
  | editDeclaration key changes generation =>
    simp only [disturb]
    split
    · exact SameInside.refl w
    · exact ⟨rfl, rfl, rfl, rfl⟩
  | _ => exact ⟨rfl, rfl, rfl, rfl⟩

/-- The turn of others leaves the inside. -/
theorem sameInside_interlude (w : World) : w.SameInside w.interlude :=
  interlude_of_disturb SameInside.refl SameInside.trans (fun _ _ => ⟨rfl, rfl, rfl, rfl⟩)
    sameInside_disturb w

/-- All that others will do keeps a relation, in every world. -/
def OthersKeep (R : World → World → Prop) (w : World) : Prop :=
  ∀ deeds ∈ w.others, ∀ deed ∈ deeds, ∀ v : World, R v (v.disturb deed)

/-- Others who will do nothing more keep everything. -/
theorem othersKeep_of_isEmpty {R : World → World → Prop} {w : World}
    (h : w.others.isEmpty = true) : w.OthersKeep R := by
  intro deeds hdeeds
  rw [List.isEmpty_iff.mp h] at hdeeds
  cases hdeeds

end World

/-- A relation between a world and a later one that rests on the stored objects alone. -/
structure Rely (R : World → World → Prop) : Prop where
  trans : ∀ {u v w : World}, R u v → R v w → R u w
  objects : ∀ {v u : World}, u.declarations = v.declarations → u.secrets = v.secrets → R v u

/-- A relation to rely on holds of a world and itself. -/
theorem Rely.refl {R : World → World → Prop} (hR : Rely R) (w : World) : R w w :=
  hR.objects rfl rfl

/-- What may lie between two writes of the operator, with the moments at which it called or read
the clock. -/
inductive Passage : World → List Moment → World → Prop
  | refl (w : World) : Passage w [] w
  | others {w v : World} {ms : List Moment} : Passage w ms v → Passage w ms v.interlude
  | call {w v : World} {ms : List Moment} (c : Call) (hc : c.opensVault = false) :
    Passage w ms v → Passage w (ms ++ [.call c v.clock]) (v.noted c)
  | opening {w v : World} {ms : List Moment} (endpoints : Vault.Endpoints) : Passage w ms v →
    Passage w (ms ++ [.call (.openVault endpoints) v.clock])
      (v.noted (.openVault endpoints)).sessionTaken
  | reading {w v : World} {ms : List Moment} :
    Passage w ms v → Passage w (ms ++ [.reading v.clock]) v.clockRead
  | aside {w v u : World} {ms : List Moment} : Passage w ms v → v.SameAccount u → Passage w ms u

namespace World

variable {R : World → World → Prop}

/-- The turn of others keeps a relation that all their deeds keep. -/
theorem interlude_keeps (hR : Rely R) {w : World} (hw : w.OthersKeep R) :
    R w w.interlude ∧ w.interlude.OthersKeep R := by
  cases hothers : w.others with
  | nil =>
    have hsame : w.interlude = w := by rw [interlude, hothers]
    rw [hsame]
    exact ⟨hR.refl w, hw⟩
  | cons deeds rest =>
    have hkeep := hw
    rw [OthersKeep, hothers, List.forall_mem_cons] at hkeep
    refine ⟨?_, by rw [OthersKeep, interlude_others, hothers]; exact hkeep.2⟩
    rw [interlude, hothers]
    have hrest : R w { w with others := rest } := hR.objects rfl rfl
    exact hR.trans hrest (foldl_disturb hR.refl hR.trans hkeep.1 _)

end World

namespace Passage

variable {w v u : World} {ms ms' : List Moment} {R : World → World → Prop}

/-- Passages can be joined. -/
theorem trans (h : Passage w ms v) (h' : Passage v ms' u) : Passage w (ms ++ ms') u := by
  induction h' with
  | refl =>
    rw [List.append_nil]
    exact h
  | others _ ih => exact ih.others
  | call c hc _ ih =>
    rw [← List.append_assoc]
    exact ih.call c hc
  | opening endpoints _ ih =>
    rw [← List.append_assoc]
    exact ih.opening endpoints
  | reading _ ih =>
    rw [← List.append_assoc]
    exact ih.reading
  | aside _ hs ih => exact ih.aside hs

/-- A log record lengthens a passage by no moment. -/
theorem logged (record : LogRecord) (h : Passage w ms v) : Passage w ms (v.logged record) :=
  h.aside ⟨rfl, rfl, rfl, rfl, rfl, rfl, rfl⟩

/-- A log record may come first. -/
theorem behindLog (record : LogRecord) (h : Passage (w.logged record) ms v) : Passage w ms v :=
  ((Passage.refl w).logged record).trans h

/-- Time that passes lengthens a passage by no moment. -/
theorem advanced (time : Time.Duration) (h : Passage w ms v) : Passage w ms (v.advance time) :=
  h.aside ⟨rfl, rfl, rfl, rfl, rfl, rfl, rfl⟩

/-- What all turns of the others keep is kept. -/
theorem keeps (hR : Rely R) (h : Passage w ms v) (hw : w.OthersKeep R) :
    R w v ∧ v.OthersKeep R := by
  induction h with
  | refl => exact ⟨hR.refl w, hw⟩
  | others _ ih =>
    obtain ⟨hv, ho⟩ := ih
    obtain ⟨hi, ho'⟩ := World.interlude_keeps hR ho
    exact ⟨hR.trans hv hi, ho'⟩
  | call c _ _ ih => exact ⟨hR.trans ih.1 (hR.objects rfl rfl), ih.2⟩
  | opening _ _ ih => exact ⟨hR.trans ih.1 (hR.objects rfl rfl), ih.2⟩
  | reading _ ih => exact ⟨hR.trans ih.1 (hR.objects rfl rfl), ih.2⟩
  | aside _ hs ih =>
    refine ⟨hR.trans ih.1 (hR.objects hs.declarations hs.secrets), ?_⟩
    unfold World.OthersKeep
    rw [hs.others]
    exact ih.2

/-- The moments of a passage are added to the history. -/
theorem history (h : Passage w ms v) : v.history = w.history ++ ms := by
  induction h with
  | refl => exact (List.append_nil _).symm
  | others _ ih => exact (World.sameInside_interlude _).history.trans ih
  | call c _ _ ih => rw [World.noted, ih, List.append_assoc]
  | opening _ _ ih => rw [World.sessionTaken, World.noted, ih, List.append_assoc]
  | reading _ ih => rw [World.clockRead, ih, List.append_assoc]
  | aside _ hs ih => exact hs.history.trans ih

/-- Whether key maps can be written does not change in a passage. -/
theorem mapFault (h : Passage w ms v) : v.mapFault = w.mapFault := by
  induction h with
  | refl => rfl
  | others _ ih => exact (World.sameInside_interlude _).mapFault.trans ih
  | call _ _ _ ih => exact ih
  | opening _ _ ih => exact ih
  | reading _ ih => exact ih
  | aside _ hs ih => exact hs.mapFault.trans ih

/-- Why a key map cannot be written does not change in a passage. -/
theorem writeFault (h : Passage w ms v) (m : Option KeyMap) : v.writeFault m = w.writeFault m := by
  rw [World.writeFault, World.writeFault, h.mapFault]

/-- Sessions of the vault are used up by opening them only. -/
theorem sessions (h : Passage w ms v) (hms : ∀ m ∈ ms, m.opensVault = false) :
    v.sessions = w.sessions := by
  induction h with
  | refl => rfl
  | others _ ih => exact (World.sameInside_interlude _).sessions.trans (ih hms)
  | call c _ _ ih => exact ih (fun m hm => hms m (List.mem_append_left _ hm))
  | opening endpoints _ _ =>
    have hopen := hms _ (List.mem_append_right _ List.mem_cons_self)
    cases hopen
  | reading _ ih => exact ih (fun m hm => hms m (List.mem_append_left _ hm))
  | aside _ hs ih => exact hs.sessions.trans (ih hms)

/-- A passage that opens no vault leaves the session. -/
theorem session (h : Passage w ms v) (hms : ∀ m ∈ ms, m.opensVault = false) :
    v.session = w.session := by
  rw [World.session, h.sessions hms, World.session]

end Passage
end SecretSync
