import SecretSync.Cli.Execution
import SecretSync.Proofs.Config.Faults

/-!
# Settings of a command

A command loads its settings first.  Settings that are refused are printed and end it with exit code
one, if the terminal takes what is printed.  An error that is not expected ends it on the spot, with
nothing printed, and so does a refusal that cannot be printed.
-/

namespace SecretSync.Cli

open Config (Environment FailsUnexpectedly LoadError OperatorSettings)

variable {terminal : Terminal} {env : Environment} {folder : Files.Folder} {path : Option String}
  {printed : List Printed} {e : LoadError}

/-- What is printed about settings that are refused. -/
def refusal (terminal : Terminal) (e : LoadError) : Printed :=
  .text ("[red]Error:[/red] Invalid configuration\n  " ++ e.message ++ terminal.details e)

/-- What printing something and leaving with exit code one comes to. -/
def leaving (terminal : Terminal) (printed : List Printed) (p : Printed) :
    Except Ending OperatorSettings × List Printed :=
  match terminal.fault? p with
  | some fault => (.error (.crash (.print fault)), printed)
  | none => (.error (.exit 1), printed ++ [p])

/-- What loading settings comes to, with what has been printed. -/
def conclusion (terminal : Terminal) (printed : List Printed) :
    Except LoadError OperatorSettings → Except Ending OperatorSettings × List Printed
  | .ok settings => (.ok settings, printed)
  | .error e =>
    if e.isReported then leaving terminal printed (refusal terminal e)
    else (.error (.crash (.load e)), printed)

private theorem run_say_exit (s : String) :
    (do Console.say terminal s; Console.exit 1 : Console OperatorSettings).run.run printed =
      pure (leaving terminal printed (.text s)) := by
  unfold Console.say Console.print leaving
  cases terminal.fault? (.text s) <;> rfl

private theorem run_loadSettings :
    (loadSettings terminal env folder path).run.run printed =
      conclusion terminal printed <$> (Config.load env folder path).run := by
  unfold loadSettings Console.attempt Console.act
  rw [ExceptT.run_bind, ExceptT.run_lift, StateT.run_bind, StateT.run_map, StateT.run_lift,
    map_eq_pure_bind, map_eq_pure_bind]
  simp only [bind_assoc, pure_bind]
  apply bind_congr
  intro r
  cases r with
  | ok settings => rfl
  | error e =>
    unfold conclusion Console.result
    dsimp only
    split
    · exact run_say_exit _
    · rfl

/-- Loading the settings ends, and what it comes to is printed. -/
theorem exists_ends_loadSettings (terminal : Terminal) (env : Environment)
    (folder : Files.Folder) (path : Option String) (printed : List Printed) (w : World) :
    ∃ w', Act.Ends ((loadSettings terminal env folder path).run.run printed) w
      (conclusion terminal printed (Config.loadedFrom env folder path)) w' := by
  rcases Config.exists_ends_load env folder path w with ⟨w', hends⟩
  refine ⟨w', ?_⟩
  rw [run_loadSettings]
  exact Act.ends_map.mpr ⟨_, hends, rfl⟩

/-- Settings are refused, with an error that is to be printed. -/
def Refused (env : Environment) (folder : Files.Folder) (path : Option String) (e : LoadError) :
    Prop :=
  Config.loadedFrom env folder path = .error e ∧ e.isReported = true

section

variable {loaded : Except LoadError OperatorSettings}

private theorem leaving_eq_crash_iff {p : Printed} {fault : PrintFault} :
    leaving terminal printed p = (.error (.crash (.print fault)), printed) ↔
      terminal.fault? p = some fault := by
  unfold leaving
  cases terminal.fault? p <;> simp

private theorem leaving_ne_crash_load {p : Printed} :
    leaving terminal printed p ≠ (.error (.crash (.load e)), printed) := by
  unfold leaving
  cases terminal.fault? p <;> simp

/-- A command ends with an error of loading exactly if the error is not one that is reported. -/
theorem conclusion_eq_load_iff :
    conclusion terminal printed loaded = (.error (.crash (.load e)), printed) ↔
      loaded = .error e ∧ e.isReported = false := by
  cases loaded with
  | ok settings => simp [conclusion]
  | error e' =>
    unfold conclusion
    dsimp only
    by_cases hkind : e'.isReported = true
    · rw [if_pos hkind]
      refine iff_of_false leaving_ne_crash_load ?_
      rintro ⟨⟨⟩, hunexpected⟩
      cases hkind.symm.trans hunexpected
    · rw [if_neg hkind]
      constructor
      · rintro ⟨⟩
        exact ⟨rfl, Bool.eq_false_iff.mpr hkind⟩
      · rintro ⟨⟨⟩, -⟩
        rfl

/-- A command ends with an error of printing exactly if an error is reported that cannot be
printed. -/
theorem conclusion_eq_print_iff {fault : PrintFault} :
    conclusion terminal printed loaded = (.error (.crash (.print fault)), printed) ↔
      ∃ e, (loaded = .error e ∧ e.isReported = true) ∧
        terminal.fault? (refusal terminal e) = some fault := by
  cases loaded with
  | ok settings => simp [conclusion]
  | error e' =>
    unfold conclusion
    dsimp only
    by_cases hkind : e'.isReported = true
    · rw [if_pos hkind, leaving_eq_crash_iff]
      constructor
      · exact fun hfault => ⟨e', ⟨rfl, hkind⟩, hfault⟩
      · rintro ⟨e, ⟨⟨⟩, -⟩, hfault⟩
        exact hfault
    · rw [if_neg hkind]
      refine iff_of_false nofun ?_
      rintro ⟨e, ⟨⟨⟩, hreported⟩, -⟩
      exact hkind hreported

end

namespace Sample

/-- A folder with a file of settings. -/
def settingsFile (content : String) : Files.Folder :=
  [("operator.yaml", Text.Utf8.encode content)]

end Sample

end SecretSync.Cli
