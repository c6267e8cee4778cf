import SecretSync.Proofs.Sync.Refill
import SecretSync.Proofs.Sync.Run

/-!
# Nothing that was pulled is lost

While nobody else writes the target of a declaration, and the target's name and the key map stay as
they are, the target holds what the key map makes of all values that were written so far.  The
stored values are only the image of these values; the annotations bring them back for each write.
-/

namespace SecretSync.Sync

/-- An object of a declaration that asks for a target with a name under a key map, and whose
metadata give a namespace. -/
structure Stands (home name : String) (m : Option KeyMap) (object : Json) : Prop where
  asks : ∀ spec, Declaration.specOf object = .ok spec → spec.secretName = name ∧ spec.map = m
  placed : ∀ ns, Declaration.nsOf object = .ok ns → ns.getD "" = home

/-- The declaration under a key, if it is there, stands. -/
def Declares (key : ObjectKey) (home name : String) (m : Option KeyMap) (w : World) : Prop :=
  ∀ object, w.declarations.get? key = some object → Stands home name m object

/-- A world has come from another one without change to the target and with the declaration still
standing. -/
def LeavesAlone (key : ObjectKey) (home name : String) (m : Option KeyMap) (v u : World) : Prop :=
  (Declares key home name m v → Declares key home name m u) ∧
    u.secrets.get? ⟨key.ns, name⟩ = v.secrets.get? ⟨key.ns, name⟩

/-- The declaration stands, and nobody will write its target or change what it asks for. -/
structure Guarded (key : ObjectKey) (home name : String) (m : Option KeyMap) (w : World) :
    Prop where
  declares : Declares key home name m w
  others : w.OthersKeep (LeavesAlone key home name m)

/-- Others have left the target alone and the declaration standing, and will. -/
structure Undisturbed (key : ObjectKey) (home name : String) (m : Option KeyMap) (v u : World) :
    Prop where
  leaves : LeavesAlone key home name m v u
  others : u.OthersKeep (LeavesAlone key home name m)

/-- A secret holds what a key map makes of data; its annotations tell so, unless it is still as it
was created. -/
structure HoldsAll (m : Option KeyMap) (data : Data) (s : Secret) : Prop where
  values : s.data = KeyMap.applyOptional m data
  annotation : s.Records m ∨
    s.annotations.get? Annotation.customMap = none ∧ data = Dict.empty

/-- What is stored for the target: a secret with the data, or nothing as long as `blank`.  Where the
declaration's namespace is not that of its key, targets are created elsewhere. -/
def Kept (key : ObjectKey) (home name : String) (m : Option KeyMap) (blank : Prop) (data : Data) :
    Option SecretObject → Prop
  | none => home = key.ns → blank
  | some object => home = key.ns ∧ ∃ s, Secret.ofObject object = .ok s ∧
      s.place = ⟨key.ns, name⟩ ∧ HoldsAll m data s

variable {key : ObjectKey} {home name : String} {m : Option KeyMap} {blank : Prop}
  {data values : Data} {s restored filled : Secret} {d : Declaration} {v u w w' : World}
  {settings : Settings}

private theorem apply_empty (m : Option KeyMap) :
    KeyMap.applyOptional m Dict.empty = Dict.empty := by
  cases m with
  | none => rfl
  | some lines =>
    have hfold : ∀ lines : KeyMap,
        lines.foldl (KeyMap.applyLine Dict.empty) Dict.empty = Dict.empty := by
      intro lines
      induction lines with
      | nil => rfl
      | cons l lines ih => exact ih
    exact hfold lines

/-- Refilling a secret that holds data adds the changed values to these data. -/
theorem HoldsAll.refill (hm : ∀ lines, m = some lines → lines.Unambiguous) (h : HoldsAll m data s)
    (hd : d.spec.map = m) {mapFault : Option String} {now : Time.Instant}
    (hrestore : Sync.restored s = .ok restored)
    (hrefill : Sync.refill mapFault key d values now restored = .ok filled) :
    HoldsAll m (data.merge values) filled := by
  replace hrestore := restoreIds_of_restored hrestore
  obtain ⟨hdata, hrecords, -⟩ := refill_cases hrefill
  rw [hd] at hdata hrecords
  refine ⟨hdata.trans ?_, Or.inl hrecords⟩
  rcases h.annotation with hrec | ⟨hnone, rfl⟩
  · rw [hrec.restoreIds] at hrestore
    cases hrestore
    rw [h.values]
    exact KeyMap.applyOptional_restoreOptional_merge hm data values
  · rw [Secret.restoreIds, hnone] at hrestore
    cases hrestore
    rw [h.values, apply_empty]

/-! ### Steps of a round -/

private theorem leavesAlone_rely : Rely (LeavesAlone key home name m) where
  trans h h' := ⟨h'.1 ∘ h.1, h'.2.trans h.2⟩
  objects hdeclarations hsecrets := by
    refine ⟨?_, by rw [hsecrets]⟩
    intro hd object hobject
    rw [hdeclarations] at hobject
    exact hd object hobject

/-- A passage leaves the target as it is. -/
theorem Guarded.passage (hw : Guarded key home name m w) {ms : List Moment} (h : Passage w ms v) :
    Guarded key home name m v ∧
      v.secrets.get? ⟨key.ns, name⟩ = w.secrets.get? ⟨key.ns, name⟩ := by
  obtain ⟨⟨hdeclares, hsame⟩, hothers⟩ := h.keeps leavesAlone_rely hw.others
  exact ⟨⟨hdeclares hw.declares, hothers⟩, hsame⟩

/-- Writing a secret leaves the guard on the declaration. -/
theorem Guarded.withSecret (hw : Guarded key home name m w) (place : ObjectKey)
    (object : SecretObject) : Guarded key home name m (w.withSecret place object) :=
  ⟨hw.declares, hw.others⟩

private theorem Guarded.withStatus (hw : Guarded key home name m w) {place : ObjectKey} {old : Json}
    (hold : w.declarations.get? place = some old) (body : Json) (version : String) :
    Guarded key home name m
      (w.withDeclaration place (Cluster.patched old body version)) := by
  refine ⟨?_, hw.others⟩
  intro object hobject
  rw [World.withDeclaration, Dict.get?_insert] at hobject
  split at hobject
  · next hplace =>
    cases hobject
    have hstands := hw.declares old (hplace ▸ hold)
    refine ⟨?_, ?_⟩
    · rw [Declaration.specOf_patched]
      exact hstands.asks
    · rw [Declaration.nsOf_patched]
      exact hstands.placed
  · exact hw.declares object hobject

/-- A declaration that is read asks for what it stands for. -/
theorem Stands.of_ofObject {object : Json} (h : Stands home name m object)
    (hd : Declaration.ofObject object = .ok d) :
    d.spec.secretName = name ∧ d.spec.map = m ∧ d.targetKey = ⟨home, name⟩ := by
  obtain ⟨hspec, -, hns, -⟩ := Declaration.ofObject_eq_ok hd
  obtain ⟨hname, hmap⟩ := h.asks d.spec hspec
  refine ⟨hname, hmap, ?_⟩
  rw [Declaration.targetKey, hname, h.placed d.ns hns]

/-- The secret that a round works on holds the data so far, or it is a target elsewhere. -/
def InHand (key : ObjectKey) (home name : String) (m : Option KeyMap) (data : Data)
    (s : Secret) : Prop :=
  home = key.ns ∧ s.place = ⟨key.ns, name⟩ ∧ HoldsAll m data s ∨
    home ≠ key.ns ∧ s.place ≠ ⟨key.ns, name⟩

private theorem HoldsAll.of_blank (h : s.Blank) (m : Option KeyMap) :
    HoldsAll m Dict.empty s := by
  refine ⟨?_, Or.inr ⟨Secret.Blank.annotation h, rfl⟩⟩
  rw [apply_empty]
  exact h.data

private theorem targetRead_kept {ms : List Moment} (hblank : blank → data = Dict.empty)
    (hname : d.spec.secretName = name) (hplace : d.targetKey = ⟨home, name⟩)
    (hg : Guarded key home name m v)
    (hk : Kept key home name m blank data (v.secrets.get? ⟨key.ns, name⟩))
    (h : TargetRead settings key d v ms s u) :
    Guarded key home name m u ∧
      Kept key home name m blank data (u.secrets.get? ⟨key.ns, name⟩) ∧
      InHand key home name m data s := by
  cases h with
  | found read passage stored holds =>
    obtain ⟨hg', hsame⟩ := hg.passage passage
    rw [hname] at stored
    rw [hsame]
    refine ⟨hg', hk, ?_⟩
    rw [← hsame, stored] at hk
    obtain ⟨hhome, s', hs', hp, hall⟩ := hk
    cases holds.symm.trans hs'
    exact Or.inl ⟨hhome, hp, hall⟩
  | @created x _ shell read sent uid passage owned free after =>
    obtain ⟨hx, hsame⟩ := hg.passage passage
    obtain ⟨hu, hsame'⟩ := (hx.withSecret d.targetKey _).passage after
    obtain ⟨hblankShell, hs⟩ := Secret.blank_shell owned uid (some x.newVersion)
    rw [hsame', World.withSecret, Dict.get?_insert, hplace]
    rw [← hsame] at hk
    by_cases hhome : home = key.ns
    · subst hhome
      rw [hplace] at free
      rw [free] at hk
      have hdata := hblank (hk rfl)
      have hall := HoldsAll.of_blank hblankShell m
      rw [if_pos rfl, hdata]
      exact ⟨hu, ⟨rfl, _, Secret.ofObject_stored shell _ uid _, hs.trans hplace, hall⟩,
        Or.inl ⟨rfl, hs.trans hplace, hall⟩⟩
    · have hne : (⟨home, name⟩ : ObjectKey) ≠ ⟨key.ns, name⟩ := by
        intro he
        exact hhome (congrArg ObjectKey.ns he)
      rw [if_neg hne]
      exact ⟨hu, hk, Or.inr ⟨hhome, hs.trans hplace ▸ hne⟩⟩

private theorem refilled_kept (hm : ∀ lines, m = some lines → lines.Unambiguous)
    {ms : List Moment} (hmap : d.spec.map = m) (hg : Guarded key home name m v)
    (hk : Kept key home name m blank data (v.secrets.get? ⟨key.ns, name⟩))
    (hs : InHand key home name m data s) (h : Refilled settings key d values s v ms u) :
    Guarded key home name m u ∧
      Kept key home name m False (data.merge values) (u.secrets.get? ⟨key.ns, name⟩) := by
  cases h with
  | @mk x _ restored filled old now sent restores refills passage stored current after =>
    obtain ⟨hx, hsame⟩ := hg.passage passage
    obtain ⟨hu, hsame'⟩ := (hx.withSecret filled.place _).passage after
    refine ⟨hu, ?_⟩
    rw [hsame', World.withSecret, Dict.get?_insert]
    have hsame'' := place_of_refill restores refills
    rcases hs with ⟨hhome, hplace, hall⟩ | ⟨hhome, hplace⟩
    · have hall' := hall.refill hm hmap restores refills
      rw [if_pos (hsame''.trans hplace)]
      refine ⟨hhome, _, Secret.ofObject_stored filled _ _ _, ?_, hall'.values, hall'.annotation⟩
      exact hsame''.trans hplace
    · rw [if_neg (hsame'' ▸ hplace), hsame]
      cases hfound : v.secrets.get? ⟨key.ns, name⟩ with
      | none => exact fun he => (hhome he).elim
      | some object =>
        rw [hfound] at hk
        exact (hhome hk.1).elim

/-- An attempt that writes adds what the vault offers; any other leaves the data as they are. -/
theorem attempted_kept (hm : ∀ lines, m = some lines → lines.Unambiguous)
    {ms : List Moment} {ending : Except Failure Progress} (hblank : blank → data = Dict.empty)
    (hname : d.spec.secretName = name) (hmap : d.spec.map = m) (hplace : d.targetKey = ⟨home, name⟩)
    (hg : Guarded key home name m v)
    (hk : Kept key home name m blank data (v.secrets.get? ⟨key.ns, name⟩))
    (h : Attempted settings key d v ms ending u) :
    Guarded key home name m u ∧
      ((∀ progress, ending = .ok progress → progress.outcome ≠ .synced) ∧
          Kept key home name m blank data (u.secrets.get? ⟨key.ns, name⟩) ∨
        ending = .ok .written ∧ ∃ delta, v.session.delta? = some delta ∧
          Kept key home name m False (data.merge delta.values)
            (u.secrets.get? ⟨key.ns, name⟩)) := by
  cases h with
  | abandoned failure passage =>
    obtain ⟨hu, hsame⟩ := hg.passage passage
    exact ⟨hu, Or.inl ⟨(fun _ he => nomatch he), hsame ▸ hk⟩⟩
  | unchanged pulled quiet after =>
    obtain ⟨hx, hsame⟩ := hg.passage pulled.toPassage
    obtain ⟨hu, hsame'⟩ := hx.passage after
    refine ⟨hu, Or.inl ⟨?_, ?_⟩⟩
    · intro progress he
      cases he
      decide
    · rw [hsame', hsame]
      exact hk
  | unfilled failure pulled changed target after =>
    obtain ⟨hx, hsame⟩ := hg.passage pulled.toPassage
    rw [← hsame] at hk
    obtain ⟨hy, hk', -⟩ := targetRead_kept hblank hname hplace hx hk target
    obtain ⟨hu, hsame'⟩ := hy.passage after
    exact ⟨hu, Or.inl ⟨(fun _ he => nomatch he), hsame' ▸ hk'⟩⟩
  | @written x y _ _ _ _ delta s pulled changed target refilled =>
    obtain ⟨hx, hsame⟩ := hg.passage pulled.toPassage
    rw [← hsame] at hk
    obtain ⟨hy, hk', hs⟩ := targetRead_kept hblank hname hplace hx hk target
    obtain ⟨hu, hk''⟩ := refilled_kept hm hmap hy hk' hs refilled
    exact ⟨hu, Or.inr ⟨rfl, delta, pulled.offered, hk''⟩⟩

private theorem recorded_kept {ms : List Moment} {record : Time.Instant → Declaration}
    (hg : Guarded key home name m v) (h : Recorded settings record v ms u) :
    Guarded key home name m u ∧
      u.secrets.get? ⟨key.ns, name⟩ = v.secrets.get? ⟨key.ns, name⟩ := by
  cases h with
  | refused now sent passage => exact hg.passage passage
  | written now sent passage stored after =>
    obtain ⟨hx, hsame⟩ := hg.passage passage
    obtain ⟨hu, hsame'⟩ := (hx.withStatus stored _ _).passage after
    exact ⟨hu, hsame'.trans hsame⟩

/-- The declaration that is found asks for what it stands for. -/
theorem Guarded.found {ms : List Moment} {now : Time.Instant} (hg : Guarded key home name m v)
    (h : Found settings key v ms d now u) :
    d.spec.secretName = name ∧ d.spec.map = m ∧ d.targetKey = ⟨home, name⟩ := by
  cases h with
  | @mk x _ object _ asked now passage stored holds after =>
    exact ((hg.passage passage).1.declares object stored).of_ofObject holds

private theorem kept_mono {blank' : Prop} {found : Option SecretObject} (h : blank → blank')
    (hk : Kept key home name m blank data found) : Kept key home name m blank' data found := by
  cases found with
  | none => exact fun he => h (hk he)
  | some object => exact hk

private theorem kept_of_not_synced {found : Option SecretObject} {round : Round}
    (hround : round.synced = false) (hk : Kept key home name m blank data found) :
    Kept key home name m (blank ∧ round.synced = false) (data.merge round.taken) found := by
  rw [round.merge_taken hround]
  exact kept_mono (fun hb => ⟨hb, hround⟩) hk

/-- A round that is written adds what the vault offered; any other leaves the data as they are.  The
declaration stands in either case. -/
theorem reconcile_kept (hm : ∀ lines, m = some lines → lines.Unambiguous)
    {ending : Except Escape Result} (hblank : blank → data = Dict.empty)
    (hg : Guarded key home name m v)
    (hk : Kept key home name m blank data (v.secrets.get? ⟨key.ns, name⟩))
    (h : Act.Ends (reconcile settings key).run v ending u) :
    Guarded key home name m u ∧
      Kept key home name m (blank ∧ Round.synced ⟨v, ending, u⟩ = false)
        (data.merge (Round.taken ⟨v, ending, u⟩))
        (u.secrets.get? ⟨key.ns, name⟩) := by
  obtain ⟨ms, h⟩ := reconcile_ends h
  cases h with
  | unread passage outcome =>
    obtain ⟨hu, hsame⟩ := hg.passage passage
    rw [hsame]
    refine ⟨hu, kept_of_not_synced ?_ hk⟩
    rcases outcome with ho | ho
    · exact decide_eq_false (by rw [outcome?, ho]; decide)
    · exact decide_eq_false (by rw [outcome?, ho]; decide)
  | overflow found outside =>
    obtain ⟨hu, hsame⟩ := hg.passage found.toPassage
    rw [hsame]
    exact ⟨hu, kept_of_not_synced rfl hk⟩
  | echo found inside =>
    obtain ⟨hu, hsame⟩ := hg.passage found.toPassage
    rw [hsame]
    exact ⟨hu, kept_of_not_synced rfl hk⟩
  | garbled found behind broken =>
    obtain ⟨hu, hsame⟩ := hg.passage (found.toPassage.trans broken.toPassage)
    rw [hsame]
    exact ⟨hu, kept_of_not_synced rfl hk⟩
  | @attempted x y _ _ _ _ d now ending found behind tried record =>
    obtain ⟨hx, hsame⟩ := hg.passage found.toPassage
    obtain ⟨hname, hmap, hplace⟩ := hg.found found
    rw [← hsame] at hk
    obtain ⟨hy, hends⟩ := attempted_kept hm hblank hname hmap hplace hx hk tried
    obtain ⟨hu, hsame'⟩ := recorded_kept hy record
    rw [hsame']
    refine ⟨hu, ?_⟩
    rcases hends with ⟨hother, hk'⟩ | ⟨rfl, delta, hoffered, hk'⟩
    · refine kept_of_not_synced ?_ hk'
      cases ending with
      | error failure => rfl
      | ok progress => exact decide_eq_false (hother progress rfl ∘ Option.some.inj)
    · have htaken : Round.taken ⟨v, .ok (reported settings key (.ok .written)), u⟩ =
          delta.values := by
        rw [found.session] at hoffered
        rw [Round.taken, Round.offered, hoffered]
        rfl
      rw [htaken]
      exact kept_mono False.elim hk'

/-- While nobody else writes the target or changes what the declaration asks for, the target holds
after every run what the key map makes of all values written in the run, whatever failed in between;
it is absent only while no round of the run was written, unless the declaration's namespace is not
that of its key. -/
theorem target_holds_accumulated {rounds : List Round}
    (hm : ∀ lines, m = some lines → lines.Unambiguous)
    (hdeclares : Declares key home name m w)
    (hstart : w.secrets.get? ⟨key.ns, name⟩ = none)
    (run : Run key (Undisturbed key home name m) w rounds w') :
    match w'.secrets.get? ⟨key.ns, name⟩ with
    | none => home = key.ns → ∀ r ∈ rounds, r.synced = false
    | some object => ∃ s, Secret.ofObject object = .ok s ∧
        s.data = KeyMap.applyOptional m (accumulated rounds) := by
  have hrun : Declares key home name m w' ∧
      Kept key home name m (∀ r ∈ rounds, r.synced = false) (accumulated rounds)
        (w'.secrets.get? ⟨key.ns, name⟩) := by
    induction run with
    | start =>
      rw [hstart]
      refine ⟨hdeclares, ?_⟩
      intro _ r hr
      cases hr
    | round earlier between ends ih =>
      obtain ⟨hstands, hkept⟩ := ih
      obtain ⟨hleft, hsame⟩ := between.leaves
      rw [← hsame] at hkept
      obtain ⟨hu, hkept'⟩ := reconcile_kept hm accumulated_of_none_synced
        ⟨hleft hstands, between.others⟩ hkept ends
      rw [accumulated_append]
      refine ⟨hu.declares, kept_mono ?_ hkept'⟩
      rintro ⟨hearlier, hlast⟩
      exact List.forall_mem_append.mpr ⟨hearlier, List.forall_mem_singleton.mpr hlast⟩
  obtain ⟨-, hkept⟩ := hrun
  cases hfound : w'.secrets.get? ⟨key.ns, name⟩ with
  | none =>
    rw [hfound] at hkept
    exact hkept
  | some object =>
    rw [hfound] at hkept
    obtain ⟨-, s, hs, -, hall⟩ := hkept
    exact ⟨s, hs, hall.values⟩

namespace Sample

/-- A world in which the vault is about to tell a value that the key map stores and one that it does
not. -/
def mappedWorld : World :=
  world [("map", keyMap.toJson)] (session .zero [("a", "1"), ("b", "2")])

private theorem declares_mappedWorld :
    Declares Sample.key "default" "app-env" (some keyMap) mappedWorld := by
  intro o ho
  have hworld : mappedWorld.declarations =
      Dict.empty.insert Sample.key (object [("map", keyMap.toJson)]) := rfl
  rw [hworld, Dict.get?_insert, if_pos rfl] at ho
  cases ho
  have hspec : Declaration.specOf (object [("map", keyMap.toJson)]) =
      .ok ⟨"org", "app-env", ⟨"auth", "token"⟩, some keyMap⟩ := by rfl
  have hns : Declaration.nsOf (object [("map", keyMap.toJson)]) = .ok (some "default") := by rfl
  refine ⟨?_, ?_⟩
  · intro spec h
    cases hspec.symm.trans h
    exact ⟨rfl, rfl⟩
  · intro ns h
    cases hns.symm.trans h
    rfl

end Sample

set_option maxRecDepth 10000 in
/-- The statement at the first round, which creates the target. -/
theorem target_holds_accumulated_first_round :
    ∃ rounds w', Run Sample.key
        (Undisturbed Sample.key "default" "app-env" (some Sample.keyMap))
        Sample.mappedWorld rounds w' ∧
      rounds.any Round.synced = true ∧
      match w'.secrets.get? ⟨"default", "app-env"⟩ with
      | none => "default" = "default" → ∀ r ∈ rounds, r.synced = false
      | some object => ∃ s, Secret.ofObject object = .ok s ∧
          s.data = KeyMap.applyOptional (some Sample.keyMap) (accumulated rounds) := by
  have hrun : Run Sample.key
      (Undisturbed Sample.key "default" "app-env" (some Sample.keyMap)) Sample.mappedWorld _ _ :=
    .round (.start _) ⟨leavesAlone_rely.refl _, fun _ hd => nomatch hd⟩
      (Act.ends_self (reconcile Sample.settings Sample.key).run Sample.mappedWorld)
  refine ⟨_, _, hrun, by decide +kernel, ?_⟩
  refine target_holds_accumulated ?_ Sample.declares_mappedWorld (by decide +kernel) hrun
  intro lines h
  cases h
  decide

end SecretSync.Sync
