import SecretSync.Logging.Cleanup
import SecretSync.Proofs.Files.Glob

/-!
# Which old log files are removed

A cleanup looks at the files of the log file's directory that have a pattern, and removes those that
have expired, whatever happens to the others, up to one whose time is no date.  If the name of the
log file is plain, they are the files whose names go on from there.  If it is not, a directory can
hold a file for which that fails.
-/

namespace SecretSync.FilePath

/-- The parts of a path hold its characters, except for slashes. -/
theorem mem_parts {cs part : List Char} {c : Char} (hpart : part ∈ parts cs) (hc : c ∈ part) :
    c ∈ cs ∧ c ≠ '/' := by
  rw [parts, List.mem_filter] at hpart
  replace hpart := hpart.1
  induction cs generalizing part with
  | nil =>
    rw [List.mem_singleton.mp hpart] at hc
    cases hc
  | cons d rest ih =>
    rw [List.foldr_cons] at hpart
    split at hpart
    · rcases List.mem_cons.mp hpart with rfl | h
      · cases hc
      · exact (ih hc h).imp_left (List.mem_cons_of_mem d)
    next hslash =>
    split at hpart
    · rw [List.mem_singleton.mp hpart] at hc
      rw [List.mem_singleton.mp hc]
      exact ⟨List.mem_cons_self, hslash⟩
    · next first others heq =>
      rcases List.mem_cons.mp hpart with rfl | h
      · rcases List.mem_cons.mp hc with rfl | hc
        · exact ⟨List.mem_cons_self, hslash⟩
        · exact (ih hc (heq ▸ List.mem_cons_self)).imp_left (List.mem_cons_of_mem d)
      · exact (ih hc (heq ▸ List.mem_cons_of_mem first h)).imp_left (List.mem_cons_of_mem d)

end SecretSync.FilePath

namespace SecretSync.Logging

open Files.Glob (Begins Differs IsFileName IsNameChar isPlain)

variable {now cutoff : Time.Instant} {e : Entry} {place : Place} {entries row : List Entry}
  {name text : List Char} {path : List (List Char)} {logFile : String}

/-! ### One file after another -/

/-- Whether an entry was written more than thirty days ago. -/
def Entry.isOld (now : Time.Instant) (e : Entry) : Bool :=
  e.modified.any (fun time => decide (time < now.micros - retention.micros))

/-- What is left when chosen entries that are old are removed as far as that is possible. -/
def withoutOld (now : Time.Instant) (chosen : Entry → Bool) (entries : List Entry) : List Entry :=
  entries.filter (fun e => !(chosen e && e.isOld now && e.removable))

/-- Of nothing that is chosen everything is left. -/
theorem withoutOld_of_unchosen {chosen : Entry → Bool} (h : ∀ e, chosen e = false) :
    withoutOld now chosen entries = entries :=
  List.filter_eq_self.mpr (fun e _ => by rw [h e]; rfl)

private theorem withoutOld_nil (now : Time.Instant) (entries : List Entry) :
    withoutOld now (([] : List Entry).contains ·) entries = entries :=
  withoutOld_of_unchosen (fun _ => rfl)

/-- The entries of a row that come before one that has no date. -/
def reached (row : List Entry) : List Entry := row.takeWhile (fun e => e.fault?.isNone)

private theorem reached_eq_self (h : ∀ e ∈ row, e.fault? = none) : reached row = row := by
  induction row with
  | nil => rfl
  | cons first rest ih =>
    obtain ⟨hfirst, hrest⟩ := List.forall_mem_cons.mp h
    rw [reached, List.takeWhile_cons_of_pos (by rw [hfirst]; rfl)]
    exact congrArg (first :: ·) (ih hrest)

/-- What has expired is what is old. -/
theorem isExpired_eq_isOld (hcutoff : cutoff? now = some cutoff) (e : Entry) :
    e.isExpired cutoff = e.isOld now := by
  have hmicros := Time.Instant.micros_add? hcutoff
  unfold Entry.isExpired Entry.isOld
  rw [hmicros, ← Int.sub_eq_add_neg]

private theorem expire_getD (hcutoff : cutoff? now = some cutoff) (e : Entry)
    (entries : List Entry) :
    (e.expire cutoff entries).getD entries = withoutOld now (· == e) entries := by
  have hsame (other : Entry) : (other == e && other.isOld now && other.removable) =
      (other == e && (e.isOld now && e.removable)) := by
    by_cases heq : other = e
    · rw [heq, Bool.and_assoc]
    · rw [beq_false_of_ne heq]
      rfl
  have hkeep : entries = entries.filter (fun other => !(other == e && false)) :=
    (List.filter_eq_self.mpr (fun _ _ => by rw [Bool.and_false]; rfl)).symm
  simp only [withoutOld, hsame, Entry.expire, isExpired_eq_isOld hcutoff]
  cases e.isOld now with
  | false => exact hkeep
  | true =>
    cases e.removable with
    | false => exact hkeep
    | true =>
      apply List.filter_congr
      intro other _
      rw [Bool.and_self, Bool.and_true, decide_not]
      rfl

/-- Of a row of entries the old ones are removed, up to one that has no date.  A failure in between
changes nothing for the entries behind. -/
theorem expireAll_eq (hcutoff : cutoff? now = some cutoff) (row entries : List Entry) :
    expireAll cutoff row entries =
      ⟨withoutOld now ((reached row).contains ·) entries, row.findSome? Entry.fault?⟩ := by
  induction row generalizing entries with
  | nil => exact congrArg (Cleanup.mk · none) (withoutOld_nil now entries).symm
  | cons first rest ih =>
    rw [expireAll]
    cases hfault : first.fault? with
    | some fault =>
      have hreached : reached (first :: rest) = [] := by simp [reached, hfault]
      rw [hreached, withoutOld_nil,
        List.findSome?_cons_of_isSome (by rw [hfault]; rfl), hfault]
    | none =>
      have hreached : reached (first :: rest) = first :: reached rest := by
        simp [reached, hfault]
      rw [hreached, List.findSome?_cons_of_isNone (by rw [hfault]; rfl)]
      dsimp only
      rw [ih, expire_getD hcutoff, withoutOld, withoutOld, List.filter_filter]
      congr 1
      apply List.filter_congr
      intro e _
      dsimp only
      rw [List.contains_cons]
      cases e == first <;> cases (reached rest).contains e <;> simp

/-- An entry is looked at without a fault exactly if it cannot be examined or has a date. -/
theorem Entry.fault?_eq_none_iff :
    e.fault? = none ↔ ∀ time, e.modified = some time → isDated time = true := by
  unfold Entry.fault?
  cases e.modified with
  | none => simp
  | some time => simp

/-! ### The entries that a cleanup looks at -/

/-- Whether an entry stands in the directory of a log file. -/
def Entry.isBeside (logFile : String) (entries : List Entry) (e : Entry) : Bool :=
  (directory? logFile entries).any (·.holds e)

/-- Whether an entry has the name of a log file, or one that goes on from there. -/
def Entry.isOwn (logFile : String) (entries : List Entry) (e : Entry) : Bool :=
  e.isBeside logFile entries && (FilePath.name logFile.toList).isPrefixOf e.name

/-- Whether a cleanup looks at an entry.  With a star as the name of the log file it looks at the
directory itself and at those below it. -/
def Entry.isListed (logFile : String) (entries : List Entry) (e : Entry) : Bool :=
  if FilePath.name logFile.toList = ['*'] then
    (directory? logFile entries).any (·.covers e) && e.isFolder
  else
    e.isBeside logFile entries &&
      Files.Glob.accepts (String.ofList (FilePath.name logFile.toList ++ ['*']))
        (String.ofList e.name)

/-- The entries that a cleanup looks at. -/
def listed (logFile : String) (entries : List Entry) : List Entry :=
  entries.filter (·.isListed logFile entries)

/-- Why a cleanup looks at nothing although the directory is there: thirty days ago there was no
calendar, or two stars stand beside each other in the pattern but do not make up the whole. -/
def refusal? (now : Time.Instant) (logFile : String) (entries : List Entry) :
    Option CleanupFault :=
  if (directory? logFile entries).isNone then none
  else if (cutoff? now).isNone then some .earlyClock
  else if FilePath.name logFile.toList ≠ ['*'] ∧
      doublesStar (FilePath.name logFile.toList ++ ['*']) then some (.path .doubledStar)
  else none

/-- A cleanup that is not refused removes every entry it looks at that is old and can be removed,
and no other one, up to an entry that has no date. -/
theorem cleanUp_eq (now : Time.Instant) (logFile : String) (entries : List Entry) :
    cleanUp now logFile entries =
      match refusal? now logFile entries with
      | some fault => ⟨entries, some fault⟩
      | none => ⟨withoutOld now ((reached (listed logFile entries)).contains ·) entries,
          (listed logFile entries).findSome? Entry.fault?⟩ := by
  unfold cleanUp refusal?
  cases hplace : directory? logFile entries with
  | none =>
    have hlisted : listed logFile entries = [] := by
      apply List.filter_eq_nil_iff.mpr
      intro e _
      simp [Entry.isListed, Entry.isBeside, hplace]
    rw [hlisted]
    exact congrArg (Cleanup.mk · none) (withoutOld_nil now entries).symm
  | some place =>
    cases hcutoff : cutoff? now with
    | none => simp
    | some cutoff =>
      show sweep cutoff place (FilePath.name logFile.toList ++ ['*']) entries = _
      unfold sweep
      by_cases hstar : FilePath.name logFile.toList = ['*']
      · have hlisted : entries.filter (fun e => place.covers e && e.isFolder) =
            listed logFile entries := by
          simp [listed, Entry.isListed, hstar, hplace]
        rw [if_pos (by rw [hstar]; rfl), hlisted, expireAll_eq hcutoff]
        simp [hstar]
      · have hpattern : FilePath.name logFile.toList ++ ['*'] ≠ ['*', '*'] :=
          fun h => hstar (List.append_cancel_right h)
        have hlisted : entries.filter (fun e => place.holds e && Files.Glob.accepts
              (String.ofList (FilePath.name logFile.toList ++ ['*'])) (String.ofList e.name)) =
            listed logFile entries := by
          simp [listed, Entry.isListed, Entry.isBeside, hstar, hplace]
        rw [if_neg hpattern, hlisted, expireAll_eq hcutoff]
        by_cases hdouble : doublesStar (FilePath.name logFile.toList ++ ['*']) = true
        · simp [hdouble, hstar]
        · simp [hdouble]

private theorem Entry.isListed_iff (hstar : FilePath.name logFile.toList ≠ ['*']) :
    e.isListed logFile entries = true ↔
      e.isBeside logFile entries = true ∧ Begins (FilePath.name logFile.toList) e.name := by
  rw [Entry.isListed, if_neg hstar, Bool.and_eq_true, Files.Glob.accepts_iff_begins]

private theorem Entry.isOwn_iff : e.isOwn logFile entries = true ↔
    e.isBeside logFile entries = true ∧ FilePath.name logFile.toList <+: e.name := by
  rw [Entry.isOwn, Bool.and_eq_true, List.isPrefixOf_iff_prefix]

/-! ### Plain names -/

private theorem doublesStar_of_isPlain (plain : isPlain name = true) :
    doublesStar (name ++ ['*']) = false := by
  induction name with
  | nil => rfl
  | cons c rest ih =>
    obtain ⟨hself, hrest⟩ := Files.Glob.isPlain_cons.mp plain
    have hskip : doublesStar (c :: (rest ++ ['*'])) = doublesStar (rest ++ ['*']) := by
      simp [doublesStar, hself.1]
    exact hskip.trans (ih hrest)

/-- With a plain name a cleanup looks at the log file's own files. -/
theorem isListed_eq_isOwn (plain : isPlain (FilePath.name logFile.toList) = true) (e : Entry) :
    e.isListed logFile entries = e.isOwn logFile entries := by
  have hstar : FilePath.name logFile.toList ≠ ['*'] := by
    intro h
    rw [h] at plain
    cases plain
  rw [Bool.eq_iff_iff, Entry.isListed_iff hstar, Entry.isOwn_iff,
    Files.Glob.begins_of_isPlain plain]

/-- Whether nothing ends a cleanup for a plain name before it is through: the directory is not
there, or thirty days ago there was a calendar and all own files that can be examined have a date.
-/
def RunsThrough (now : Time.Instant) (logFile : String) (entries : List Entry) : Prop :=
  directory? logFile entries = none ∨
    (cutoff? now).isSome = true ∧ ∀ e ∈ entries, e.isOwn logFile entries = true →
      ∀ time, e.modified = some time → isDated time = true

/-- With a plain name exactly the own files that are old and can be removed are removed, provided
that nothing ends the cleanup before. -/
theorem cleanUp_of_isPlain_iff (plain : isPlain (FilePath.name logFile.toList) = true) :
    cleanUp now logFile entries = ⟨withoutOld now (·.isOwn logFile entries) entries, none⟩ ↔
      RunsThrough now logFile entries := by
  rw [cleanUp_eq]
  have hlisted : listed logFile entries = entries.filter (·.isOwn logFile entries) :=
    List.filter_congr (fun e _ => isListed_eq_isOwn plain e)
  unfold RunsThrough refusal?
  cases hplace : directory? logFile entries with
  | none =>
    have hown (e : Entry) : e.isOwn logFile entries = false := by
      rw [Entry.isOwn, Entry.isBeside, hplace]
      rfl
    have hnothing : listed logFile entries = [] := by
      rw [hlisted]
      exact List.filter_eq_nil_iff.mpr (fun e _ => by rw [hown e]; exact Bool.false_ne_true)
    have hleft : withoutOld now ((reached []).contains ·) entries = entries :=
      withoutOld_nil now entries
    rw [hnothing, hleft, withoutOld_of_unchosen hown]
    simp
  | some place =>
    cases hcutoff : cutoff? now with
    | none => simp
    | some cutoff =>
      simp only [doublesStar_of_isPlain plain, Option.isNone_some, Option.isSome_some,
        Bool.false_eq_true, and_false, if_false, reduceCtorEq, false_or, true_and]
      rw [Cleanup.mk.injEq]
      constructor
      · rintro ⟨-, hfault⟩ e he hown
        refine Entry.fault?_eq_none_iff.mp (List.findSome?_eq_none_iff.mp hfault e ?_)
        rw [hlisted]
        exact List.mem_filter.mpr ⟨he, hown⟩
      · intro hdated
        have hnone : ∀ e ∈ listed logFile entries, e.fault? = none := by
          intro e he
          obtain ⟨hmem, hown⟩ := List.mem_filter.mp (hlisted ▸ he)
          exact Entry.fault?_eq_none_iff.mpr (hdated e hmem hown)
        refine ⟨?_, List.findSome?_eq_none_iff.mpr hnone⟩
        rw [reached_eq_self hnone, hlisted]
        apply List.filter_congr
        intro e he
        have hchosen : (entries.filter (·.isOwn logFile entries)).contains e =
            e.isOwn logFile entries := by
          rw [Bool.eq_iff_iff, List.contains_iff_mem, List.mem_filter]
          exact and_iff_right he
        dsimp only
        rw [hchosen]

/-! ### Other names -/

/-- The way through directories stays when there is one more entry. -/
theorem follow_cons {found : Place} (e : Entry) (h : follow entries place path = some found) :
    follow (e :: entries) place path = some found := by
  fun_induction follow entries place path with
  | case1 => exact h
  | case2 part rest ih => exact ih h
  | case3 folder rest ih =>
    rw [follow, if_pos rfl]
    exact ih h
  | case4 folder part rest habove hthere ih =>
    have hthere' : (hasFolder (folder ++ [part]) (e :: entries) ||
        (rest.isEmpty && isThere (folder ++ [part]) (e :: entries))) = true := by
      simp only [hasFolder, isThere, List.any_cons, Bool.or_eq_true, Bool.and_eq_true] at hthere ⊢
      exact hthere.imp Or.inr (And.imp_right Or.inr)
    rw [follow, if_neg habove, if_pos hthere']
    exact ih h
  | case5 => cases h

private theorem isNameChar_of_name (hnul : '\x00' ∉ logFile.toList) :
    ∀ c ∈ FilePath.name logFile.toList, IsNameChar c := by
  intro c hc
  unfold FilePath.name at hc
  cases hlast : (FilePath.parts logFile.toList).getLast? with
  | none =>
    rw [hlast] at hc
    cases hc
  | some part =>
    rw [hlast] at hc
    obtain ⟨hmem, hslash⟩ := FilePath.mem_parts (List.mem_of_getLast? hlast) hc
    exact ⟨hslash, fun h => hnul (h ▸ hmem)⟩

/-- A file in the directory of a log file. -/
def fileIn (folder : List (List Char)) (name : List Char) (modified : Int) : Entry :=
  ⟨folder ++ [name], some modified, false, false⟩

private theorem fileIn_name (folder : List (List Char)) (name : List Char) (modified : Int) :
    (fileIn folder name modified).name = name := by
  simp [fileIn, Entry.name]

private theorem fileIn_isBeside {folder : List (List Char)} {modified : Int}
    (hfolder : directory? logFile entries = some (.inside folder)) :
    (fileIn folder text modified).isBeside logFile (fileIn folder text modified :: entries) =
      true := by
  have hstays : directory? logFile (fileIn folder text modified :: entries) =
      some (.inside folder) := follow_cons _ hfolder
  rw [Entry.isBeside, hstays]
  simp [Place.holds, Entry.isIn, fileIn]

private theorem mem_withoutOld (chosen : Entry → Bool) (hold : e.isOld now = true)
    (hremovable : e.removable = true) (he : e ∈ entries) :
    e ∈ withoutOld now chosen entries ↔ chosen e = false := by
  simp [withoutOld, he, hold, hremovable]

/-- A file on which a right cleanup depends is looked at exactly if it is one of the log file's. -/
theorem listed_iff_own (hright : cleanUp now logFile entries =
      ⟨withoutOld now (·.isOwn logFile entries) entries, none⟩)
    (he : e ∈ entries) (hbeside : e.isBeside logFile entries = true)
    (hold : e.isOld now = true) (hremovable : e.removable = true) :
    FilePath.name logFile.toList ≠ ['*'] ∧ Begins (FilePath.name logFile.toList) e.name ↔
      FilePath.name logFile.toList <+: e.name := by
  rw [cleanUp_eq] at hright
  split at hright
  · cases (Cleanup.mk.inj hright).2
  obtain ⟨hleft, hfault⟩ := Cleanup.mk.inj hright
  have hall := reached_eq_self (List.findSome?_eq_none_iff.mp hfault)
  have hsame : ¬ e ∈ listed logFile entries ↔ e.isOwn logFile entries = false := by
    rw [← mem_withoutOld (·.isOwn logFile entries) hold hremovable he, ← hleft,
      mem_withoutOld _ hold hremovable he, hall, List.contains_eq_mem, decide_eq_false_iff_not]
  have hchosen := not_congr hsame
  rw [Classical.not_not, Bool.not_eq_false, Entry.isOwn_iff, and_iff_right hbeside, listed,
    List.mem_filter, and_iff_right he] at hchosen
  by_cases hstar : FilePath.name logFile.toList = ['*']
  · have hunlisted : e.isListed logFile entries = false := by
      have hfile : e.isFolder = false := by
        unfold Entry.removable at hremovable
        simp_all
      rw [Entry.isListed, if_pos hstar, hfile, Bool.and_false]
    rw [← hchosen, hunlisted]
    simp [hstar]
  · rw [← hchosen, Entry.isListed_iff hstar, and_iff_right hbeside, and_iff_right hstar]

/-- For a name that is not plain there is the name of a file that is looked at though it is none of
the log file's, or the other way round. -/
theorem exists_name_of_unplain (hchars : ∀ c ∈ name, IsNameChar c)
    (unplain : isPlain name = false) :
    ∃ text, IsFileName text ∧ ¬ (name ≠ ['*'] ∧ Begins name text ↔ name <+: text) := by
  by_cases hstar : name = ['*']
  · subst hstar
    refine ⟨['*'], Files.Glob.isFileName_of_ne_point (by decide) hchars, ?_⟩
    intro h
    exact (h.mpr (List.prefix_refl _)).1 rfl
  · obtain ⟨text, hname, hdiffers⟩ := Files.Glob.exists_differs hchars unplain
    exact ⟨text, hname, fun h => hdiffers ((and_iff_right hstar).symm.trans h)⟩

namespace Sample

/-- The second of May 2024, at noon. -/
def noon : Time.Instant := ⟨63850248000000000, by decide⟩

/-- A file in the working directory, written forty days before. -/
def oldFile (name : String) : Entry :=
  fileIn [] name.toList (noon.micros - 40 * 86400000000)

/-- A file in the working directory, written in the year 10000. -/
def lateFile (name : String) : Entry := fileIn [] name.toList Time.Instant.limit

end Sample

open Sample (noon oldFile lateFile)

end SecretSync.Logging
