import SecretSync.Proofs.Declaration.Status

/-!
# Conditions along a row of reports

Reports are recorded one after another, and the generation of the declaration may change between
them.  Where the types of the conditions differ, each report is told by the one condition of its
type, and the time of transition of a condition is that of the last report that moved it.
-/

namespace SecretSync

namespace Report

/-- A report creates the condition of a type, or changes its status. -/
def Moves (type : String) (cs : List Condition) (r : Report) : Prop :=
  r.type.name = type ∧ ∀ c ∈ cs, c.type = type → c.status ≠ r.status

/-- What a report does to a list of conditions. -/
structure Enters (r : Report) (cs cs' : List Condition) : Prop where
  /-- No condition goes away, and one is added behind the others if there was none of the type. -/
  types : cs'.map (·.type) =
    if r.type.name ∈ cs.map (·.type) then cs.map (·.type) else cs.map (·.type) ++ [r.type.name]
  others : ∀ (i : Nat) (c : Condition),
    cs[i]? = some c → c.type ≠ r.type.name → cs'[i]? = some c
  told : ∀ c ∈ cs', c.type = r.type.name → r.ToldBy c

variable {r : Report} {cs : List Condition} {c : Condition}

private theorem types_record (r : Report) (cs : List Condition) :
    (r.record cs).map (·.type) =
      if r.type.name ∈ cs.map (·.type) then cs.map (·.type)
      else cs.map (·.type) ++ [r.type.name] := by
  induction cs with
  | nil => simp [record, toCondition]
  | cons c cs ih =>
    by_cases htype : c.type = r.type.name
    · simp [record, htype, update]
    · have hne : r.type.name ≠ c.type := Ne.symm htype
      simp only [record, if_neg htype, List.map_cons, ih, List.mem_cons, hne, false_or]
      split <;> simp

/-- Types that differ go on to differ. -/
theorem nodup_types_record (distinct : (cs.map (·.type)).Nodup) :
    ((r.record cs).map (·.type)).Nodup := by
  rw [types_record]
  split
  · exact distinct
  · next hnew =>
    rw [List.nodup_append]
    refine ⟨distinct, by simp, ?_⟩
    intro a ha b hb hab
    rw [List.mem_singleton] at hb
    subst hab hb
    exact hnew ha

private theorem getElem?_record_of_ne {i : Nat} (hc : cs[i]? = some c)
    (hne : c.type ≠ r.type.name) :
    (r.record cs)[i]? = some c := by
  induction cs generalizing i with
  | nil => simp at hc
  | cons x cs ih =>
    cases i with
    | zero =>
      have hx : x = c := by simpa using hc
      subst hx
      simp [record, hne]
    | succ i =>
      have htail : cs[i]? = some c := by simpa using hc
      by_cases htype : x.type = r.type.name
      · simpa [record, htype] using htail
      · simpa [record, htype] using ih htail

/-- The type of the first of conditions whose types differ does not come again. -/
theorem type_ne_first {x : Condition} (hnew : x.type ∉ cs.map (·.type)) :
    ∀ y ∈ cs, x.type ≠ y.type := by
  intro y hy heq
  apply hnew
  rw [heq]
  exact List.mem_map_of_mem hy

private theorem toldBy_of_mem_record (distinct : (cs.map (·.type)).Nodup) (hc : c ∈ r.record cs)
    (htype : c.type = r.type.name) : r.ToldBy c := by
  induction cs with
  | nil =>
    have hnew : c = r.toCondition := by simpa [record] using hc
    subst hnew
    exact ⟨rfl, rfl, rfl, rfl, rfl⟩
  | cons x cs ih =>
    rw [List.map_cons, List.nodup_cons] at distinct
    by_cases hx : x.type = r.type.name
    · rw [record, if_pos hx] at hc
      rcases List.mem_cons.mp hc with rfl | hrest
      · exact ⟨hx, rfl, rfl, rfl, rfl⟩
      · exact absurd (hx.trans htype.symm) (type_ne_first distinct.1 c hrest)
    · rw [record, if_neg hx] at hc
      rcases List.mem_cons.mp hc with rfl | hrest
      · exact absurd htype hx
      · exact ih distinct.2 hrest

/-- Recording a report among conditions whose types differ. -/
theorem enters_record (distinct : (cs.map (·.type)).Nodup) : r.Enters cs (r.record cs) where
  types := types_record r cs
  others := fun _ _ => getElem?_record_of_ne
  told := fun _ => toldBy_of_mem_record distinct

/-- The time of transition is that of the report if it moves the condition, and else is kept. -/
theorem lastTransition_record (distinct : (cs.map (·.type)).Nodup) (hc : c ∈ r.record cs) :
    (r.Moves c.type cs ∧ c.lastTransition = some r.time) ∨
      ¬ r.Moves c.type cs ∧ ∃ old ∈ cs, old.type = c.type ∧
        c.lastTransition = old.lastTransition := by
  induction cs with
  | nil =>
    have hnew : c = r.toCondition := by simpa [record] using hc
    subst hnew
    exact Or.inl ⟨⟨rfl, by simp⟩, rfl⟩
  | cons x cs ih =>
    rw [List.map_cons, List.nodup_cons] at distinct
    have hfirst := type_ne_first distinct.1
    by_cases hx : x.type = r.type.name
    · rw [record, if_pos hx] at hc
      rcases List.mem_cons.mp hc with rfl | hrest
      · by_cases hstatus : x.status = r.status
        · right
          refine ⟨?_, x, by simp, rfl, by simp [update, hstatus]⟩
          intro hmoves
          exact hmoves.2 x (by simp) rfl hstatus
        · left
          refine ⟨⟨hx.symm, ?_⟩, by simp [update, hstatus]⟩
          intro y hy htype
          rcases List.mem_cons.mp hy with rfl | hy
          · exact hstatus
          · exact absurd htype.symm (hfirst y hy)
      · right
        refine ⟨?_, c, by simp [hrest], rfl, rfl⟩
        intro hmoves
        exact hfirst c hrest (hx.trans hmoves.1)
    · rw [record, if_neg hx] at hc
      rcases List.mem_cons.mp hc with rfl | hrest
      · right
        refine ⟨?_, c, by simp, rfl, rfl⟩
        intro hmoves
        exact hx hmoves.1.symm
      · rcases ih distinct.2 hrest with ⟨hmoves, htime⟩ | ⟨hstill, old, hold, htype, htime⟩
        · left
          refine ⟨⟨hmoves.1, ?_⟩, htime⟩
          intro y hy htype
          rcases List.mem_cons.mp hy with rfl | hy
          · exact absurd (htype.trans hmoves.1.symm) hx
          · exact hmoves.2 y hy htype
        · right
          refine ⟨?_, old, by simp [hold], htype, htime⟩
          intro hmoves
          exact hstill ⟨hmoves.1, fun y hy => hmoves.2 y (List.mem_cons_of_mem x hy)⟩

end Report

namespace Declaration

/-- A report recorded when the declaration has the generation of the report. -/
def reported (d : Declaration) (r : Report) : Declaration :=
  { d with generation := r.generation }.setCondition r.type r.succeeded r.reason r.message r.time

/-- Reports recorded one after another. -/
def reportedAll (d : Declaration) (rs : List Report) : Declaration := rs.foldl reported d

/-- None of some reports moves the condition of a type. -/
def Unmoved (type : String) (d : Declaration) (rs : List Report) : Prop :=
  ∀ before r after, rs = before ++ r :: after →
    ¬ r.Moves type (d.reportedAll before).status.conditions

/-- Of some reports the last one that moves the condition of a type. -/
def LastMoved (type : String) (d : Declaration) (rs : List Report) (r : Report) : Prop :=
  ∃ before after, rs = before ++ r :: after ∧
    r.Moves type (d.reportedAll before).status.conditions ∧
    Unmoved type (d.reportedAll (before ++ [r])) after

variable {d : Declaration} {r : Report} {rs : List Report} {type : String} {c : Condition}

private theorem conditions_reported (d : Declaration) (r : Report) :
    (d.reported r).status.conditions = r.record d.status.conditions := rfl

private theorem reportedAll_append (d : Declaration) (rs rs' : List Report) :
    d.reportedAll (rs ++ rs') = (d.reportedAll rs).reportedAll rs' := List.foldl_append

private theorem nodup_types_reportedAll (distinct : (d.status.conditions.map (·.type)).Nodup)
    (rs : List Report) : ((d.reportedAll rs).status.conditions.map (·.type)).Nodup := by
  induction rs generalizing d with
  | nil => exact distinct
  | cons r rs ih =>
    apply ih
    rw [conditions_reported]
    exact Report.nodup_types_record distinct

private theorem unmoved_nil : Unmoved type d [] := by
  intro before r after h
  simp at h

private theorem unmoved_cons (hfirst : ¬ r.Moves type d.status.conditions)
    (hrest : Unmoved type (d.reported r) rs) : Unmoved type d (r :: rs) := by
  intro before m after h
  cases before with
  | nil =>
    rcases List.cons.inj h with ⟨rfl, rfl⟩
    exact hfirst
  | cons x before =>
    rcases List.cons.inj h with ⟨rfl, hrs⟩
    exact hrest before m after hrs

private theorem lastMoved_cons {m : Report} (h : LastMoved type (d.reported r) rs m) :
    LastMoved type d (r :: rs) m := by
  rcases h with ⟨before, after, hrs, hmoves, hbehind⟩
  exact ⟨r :: before, after, by rw [hrs]; rfl, hmoves, hbehind⟩

/-- The time of transition is that of the last report that moved the condition, and the one that it
had at the start if none did. -/
theorem lastTransition_reportedAll (distinct : (d.status.conditions.map (·.type)).Nodup)
    (hc : c ∈ (d.reportedAll rs).status.conditions) :
    (∃ r, LastMoved c.type d rs r ∧ c.lastTransition = some r.time) ∨
      Unmoved c.type d rs ∧ ∃ old ∈ d.status.conditions, old.type = c.type ∧
        c.lastTransition = old.lastTransition := by
  induction rs generalizing d with
  | nil => exact Or.inr ⟨unmoved_nil, c, hc, rfl, rfl⟩
  | cons r rs ih =>
    have hdistinct := nodup_types_reportedAll distinct [r]
    rcases ih hdistinct hc with ⟨m, hlast, htime⟩ | ⟨hrest, mid, hmid, htype, htime⟩
    · exact Or.inl ⟨m, lastMoved_cons hlast, htime⟩
    · rcases Report.lastTransition_record distinct hmid with
        ⟨hmoves, hnow⟩ | ⟨hstill, old, hold, hsame, hkept⟩
      · rw [htype] at hmoves
        exact Or.inl ⟨r, ⟨[], rs, rfl, hmoves, hrest⟩, htime.trans hnow⟩
      · rw [htype] at hstill
        refine Or.inr ⟨unmoved_cons hstill hrest, old, hold, hsame.trans htype, ?_⟩
        rw [htime, hkept]

/-- Along every row of reports the types of the conditions go on to differ, each report is told by
the condition of its type and leaves the others, and the times of transition are those of the last
reports that moved their conditions. -/
theorem conditions_tell_reports (d : Declaration) (rs : List Report)
    (distinct : (d.status.conditions.map (·.type)).Nodup) :
    ((d.reportedAll rs).status.conditions.map (·.type)).Nodup ∧
    (∀ before r after, rs = before ++ r :: after →
      r.Enters (d.reportedAll before).status.conditions
        (d.reportedAll (before ++ [r])).status.conditions) ∧
    ∀ c ∈ (d.reportedAll rs).status.conditions,
      (∃ r, LastMoved c.type d rs r ∧ c.lastTransition = some r.time) ∨
        Unmoved c.type d rs ∧ ∃ old ∈ d.status.conditions, old.type = c.type ∧
          c.lastTransition = old.lastTransition := by
  refine ⟨nodup_types_reportedAll distinct rs, ?_, ?_⟩
  · intro before r after _
    rw [reportedAll_append]
    exact Report.enters_record (nodup_types_reportedAll distinct before)
  · intro c hc
    exact lastTransition_reportedAll distinct hc

namespace Sample

/-- A failure, or a success, at an instant and a generation. -/
def attempted (succeeded : Bool) (time : Time.Instant) (generation : Nat) : Report where
  type := if succeeded then .successfulSync else .failedSync
  succeeded := succeeded
  reason := if succeeded then .complete else .failed
  message := ""
  time := time
  generation := some (.ofNat generation)

/-- A declaration with a condition of another writer, and one of a failure that is not known to be
over. -/
def waiting : Declaration where
  name := "app"
  ns := some "default"
  uid := some "u1"
  resourceVersion := none
  generation := some (.ofNat 1)
  labels := .empty
  annotations := .empty
  spec := ⟨"org", "app-env", ⟨"auth", "token"⟩, none⟩
  status := ⟨none, [⟨"FailedSync", "Unknown", "", "", none, none⟩,
    ⟨"Seen", "True", "", "", some ⟨5, by decide⟩, none⟩]⟩

/-- Two failures, a success behind an edit, and a third failure. -/
def attempts : List Report :=
  [attempted false ⟨1, by decide⟩ 1, attempted false ⟨2, by decide⟩ 1,
    attempted true ⟨3, by decide⟩ 2, attempted false ⟨4, by decide⟩ 2]

end Sample

/-- The statement at two failures, a success behind an edit, and a third failure. -/
theorem conditions_tell_reports_of_attempts :
    (Sample.waiting.status.conditions.map (·.type)).Nodup ∧
      ((Sample.waiting.reportedAll Sample.attempts).status.conditions.map (·.type)).Nodup ∧
      (∀ before r after, Sample.attempts = before ++ r :: after →
        r.Enters (Sample.waiting.reportedAll before).status.conditions
          (Sample.waiting.reportedAll (before ++ [r])).status.conditions) ∧
      (∀ c ∈ (Sample.waiting.reportedAll Sample.attempts).status.conditions,
        (∃ r, LastMoved c.type Sample.waiting Sample.attempts r ∧
          c.lastTransition = some r.time) ∨
        Unmoved c.type Sample.waiting Sample.attempts ∧
          ∃ old ∈ Sample.waiting.status.conditions, old.type = c.type ∧
            c.lastTransition = old.lastTransition) ∧
      (Sample.waiting.reportedAll Sample.attempts).status.conditions.map (·.lastTransition) =
        [some ⟨1, by decide⟩, some ⟨5, by decide⟩, some ⟨3, by decide⟩] := by
  have h : (Sample.waiting.status.conditions.map (·.type)).Nodup := by decide
  rcases conditions_tell_reports Sample.waiting Sample.attempts h with ⟨hnodup, henters, htimes⟩
  exact ⟨h, hnodup, henters, htimes, rfl⟩

end Declaration
end SecretSync
