/-
  What can be asked for on the command line.

  An empty text is no path, whichever way an option and its value are written
  (`namesFiles_of_ofArguments?`). That is all that reading demands of the arguments: whatever
  selectors, options and paths there are to be, as long as no path is empty there is a command line
  that asks for just these (`ofArguments?_commandLine`). It gives every option by its long name,
  with the value behind an equals sign, so that a value may look like an option; and it
  gives the selectors behind two hyphens, so that they may look like options too.
-/
import CssSelector.CommandLine.Arguments
import Mathlib.Tactic.SplitIfs

namespace CssSelector.CommandLine

variable {a b : Arguments}

/-! ### No empty paths -/

/-- No file that is named has the empty path. -/
structure Arguments.NamesFiles (a : Arguments) : Prop where
  file_ne : a.file ≠ some []
  config_ne : a.config ≠ some []

/-- No empty path has been read up to here. -/
def Outcome.NamesFiles : Outcome → Prop
  | .go a => a.NamesFiles
  | .await a _ => a.NamesFiles
  | .done (.run a) => a.NamesFiles
  | .done _ => True
  | .wrong => True

/-- An option is taken once: if it was not given before, and its value fits. -/
theorem once_eq_some_iff {α : Type} {before value after : Option α} :
    Arguments.once before value = some after ↔
      before = none ∧ ∃ x, value = some x ∧ after = some x := by
  cases before with
  | some x => simp [Arguments.once]
  | none => simp [Arguments.once, eq_comm]

theorem path?_eq_some_iff {value path : Text} :
    Arguments.path? value = some path ↔ value = path ∧ path ≠ [] := by
  unfold Arguments.path?
  split_ifs with h
  · simp [h, eq_comm]
  · constructor
    · intro e
      obtain rfl := Option.some.inj e
      exact ⟨rfl, h⟩
    · rintro ⟨rfl, -⟩
      rfl

theorem once_path?_ne {before after : Option Text} {value : Text}
    (h : Arguments.once before (Arguments.path? value) = some after) : after ≠ some [] := by
  obtain ⟨-, path, hpath, rfl⟩ := once_eq_some_iff.1 h
  intro e
  exact (path?_eq_some_iff.1 hpath).2 (Option.some.inj e)

theorem Arguments.NamesFiles.set? {setting : Setting} {value : Text} (h : a.NamesFiles)
    (hset : a.set? setting value = some b) : b.NamesFiles := by
  cases setting with
  | file =>
    obtain ⟨file, honce, rfl⟩ := Option.map_eq_some_iff.1 hset
    exact ⟨once_path?_ne honce, h.config_ne⟩
  | config =>
    obtain ⟨config, honce, rfl⟩ := Option.map_eq_some_iff.1 hset
    exact ⟨h.file_ne, once_path?_ne honce⟩
  | tags =>
    obtain ⟨tags, -, rfl⟩ := Option.map_eq_some_iff.1 hset
    exact ⟨h.file_ne, h.config_ne⟩
  | attributeNames =>
    obtain ⟨attributeNames, -, rfl⟩ := Option.map_eq_some_iff.1 hset
    exact ⟨h.file_ne, h.config_ne⟩

theorem namesFiles_set? (h : a.NamesFiles) (setting : Setting) (value : Text) :
    (Outcome.ofArguments? (a.set? setting value)).NamesFiles := by
  cases hset : a.set? setting value with
  | none => trivial
  | some b => exact h.set? hset

theorem namesFiles_turnOn (h : a.NamesFiles) (switch : Switch) :
    (a.turnOn switch).NamesFiles := by
  unfold Arguments.turnOn
  cases switch with
  | setting setting => exact h
  | json =>
    dsimp only
    split_ifs
    · trivial
    · exact ⟨h.file_ne, h.config_ne⟩
  | xml =>
    dsimp only
    split_ifs
    · trivial
    · exact ⟨h.file_ne, h.config_ne⟩
  | version => trivial
  | help => trivial

/-- By induction on the letters: each of them that has no value leads to the next one. -/
theorem namesFiles_readLetters (h : a.NamesFiles) (s : Text) :
    (readLetters a s).NamesFiles := by
  induction s generalizing a with
  | nil => exact h
  | cons c s ih =>
    rw [readLetters]
    split
    · trivial
    · split
      · exact h
      · exact namesFiles_set? h _ _
    next switch _ _ =>
      have hon := namesFiles_turnOn h switch
      split
      next b hb =>
        rw [hb] at hon
        exact ih hon
      next => exact hon

theorem namesFiles_readLong (h : a.NamesFiles) (s : Text) : (readLong a s).NamesFiles := by
  unfold readLong
  dsimp only
  split
  · trivial
  · exact namesFiles_turnOn h _
  · exact namesFiles_set? h _ _
  · trivial

theorem namesFiles_readArgument (h : a.NamesFiles) (s : Text) :
    (readArgument a s).NamesFiles := by
  have hadd : (a.add s).NamesFiles := ⟨h.file_ne, h.config_ne⟩
  unfold readArgument
  split
  · exact hadd
  · split_ifs
    · exact hadd
    · split
      · exact hadd
      · split_ifs
        · exact namesFiles_readLong h _
        · exact namesFiles_readLetters h _

/-- No empty path is read, in as many arguments as there are. By induction on the reading of the
arguments. -/
theorem namesFiles_readArguments {args : List Text} (h : a.NamesFiles)
    (hrun : readArguments a args = some (.run b)) : b.NamesFiles := by
  fun_induction readArguments a args with
  | case1 a =>
    obtain rfl := Request.run.inj (Option.some.inj hrun)
    exact h
  | case2 a rest =>
    obtain rfl := Request.run.inj (Option.some.inj hrun)
    exact ⟨h.file_ne, h.config_ne⟩
  | case3 a s rest _ c hgo ih =>
    have hc := namesFiles_readArgument h s
    rw [hgo] at hc
    exact ih hc hrun
  | case4 a s rest _ request hdone =>
    have hb := namesFiles_readArgument h s
    rw [hdone, Option.some.inj hrun] at hb
    exact hb
  | case8 a s _ c setting hawait value rest _ d hset ih =>
    have hc := namesFiles_readArgument h s
    rw [hawait] at hc
    exact ih (Arguments.NamesFiles.set? hc hset) hrun
  | case5 | case6 | case7 | case9 => cases hrun

/-- **No empty path is read.** -/
theorem namesFiles_of_ofArguments? {args : List Text}
    (h : Request.ofArguments? args = some (.run a)) : a.NamesFiles :=
  namesFiles_readArguments ⟨by simp, by simp⟩ h

/-! ### Written arguments -/

/-- The long name of an option with a value. -/
def Setting.name : Setting → Text
  | .file => "file".toList
  | .config => "config".toList
  | .tags => "lower-case-tags".toList
  | .attributeNames => "lower-case-attribute-names".toList

/-- An option with its value, in one argument. -/
def Setting.write (setting : Setting) (value : Text) : Text :=
  '-' :: '-' :: (setting.name ++ '=' :: value)

/-- A truth value as it is written on the command line. -/
def boolText (b : Bool) : Text :=
  if b then "true".toList else "false".toList

/-- A command line that asks for the arguments. -/
def Arguments.commandLine (a : Arguments) : List Text :=
  (a.file.map Setting.file.write).toList ++
    ((a.config.map Setting.config.write).toList ++
    ((a.tags.map fun b => Setting.tags.write (boolText b)).toList ++
    ((a.attributeNames.map fun b => Setting.attributeNames.write (boolText b)).toList ++
    ((if a.json then ["--json".toList] else []) ++
    ((if a.xml then ["--xml".toList] else []) ++
    ['-', '-'] :: a.selectors)))))

theorem bool?_boolText (b : Bool) : Arguments.bool? (boolText b) = some b := by
  cases b <;> rfl

theorem Setting.ofName?_name (setting : Setting) :
    Switch.ofName? setting.name = some (.setting setting) := by
  cases setting <;> rfl

theorem readLong_name (a : Arguments) (setting : Setting) (value : Text) :
    readLong a (setting.name ++ '=' :: value) = .ofArguments? (a.set? setting value) := by
  have htake : (setting.name ++ '=' :: value).takeWhile (· ≠ '=') = setting.name := by
    cases setting <;> rfl
  have hdrop : (setting.name ++ '=' :: value).dropWhile (· ≠ '=') = '=' :: value := by
    cases setting <;> rfl
  rw [readLong, htake, hdrop, Setting.ofName?_name]

/-- An argument that says how to go on leads on to the next one. -/
theorem readArguments_go {s : Text} (hne : s ≠ ['-', '-']) (h : readArgument a s = .go b)
    (rest : List Text) : readArguments a (s :: rest) = readArguments b rest := by
  rw [readArguments, if_neg hne, h]

/-- An option with a value is read back, from where it is written if there is a value. Here `u` puts
the value in its place, and `parse` is how the option reads it. -/
theorem readArguments_setting {α : Type} {setting : Setting} {parse : Text → Option α}
    {text : α → Text} {u : Option α → Arguments}
    (hset : ∀ s, (u none).set? setting s = (Arguments.once none (parse s)).map u)
    {value : Option α} (hparse : ∀ x, value = some x → parse (text x) = some x)
    (rest : List Text) :
    readArguments (u none) ((value.map fun x => setting.write (text x)).toList ++ rest) =
      readArguments (u value) rest := by
  cases value with
  | none => rfl
  | some x =>
    refine readArguments_go (by simp [Setting.write]) ?_ rest
    show readLong (u none) (setting.name ++ '=' :: text x) = .go (u (some x))
    rw [readLong_name, hset, hparse x rfl]
    rfl

/-- An option without a value is read back, from where it is written if it is on. -/
theorem readArguments_switch {s : Text} {u : Bool → Arguments} (hne : s ≠ ['-', '-'])
    (h : readArgument (u false) s = .go (u true)) (on : Bool) (rest : List Text) :
    readArguments (u false) ((if on then [s] else []) ++ rest) = readArguments (u on) rest := by
  cases on with
  | false => rfl
  | true => exact readArguments_go hne h rest

/-- **Everything can be asked for**, but for an empty path. -/
theorem ofArguments?_commandLine (h : a.NamesFiles) :
    Request.ofArguments? a.commandLine = some (.run a) := by
  obtain ⟨selectors, file, config, json, xml, tags, attributeNames⟩ := a
  have hpath {path : Text} (hne : some path ≠ some []) : Arguments.path? path = some path :=
    path?_eq_some_iff.2 ⟨rfl, fun e => hne (congrArg some e)⟩
  -- the options one after the other, each on top of those before it
  have hfile (rest : List Text) :
      readArguments {} ((file.map Setting.file.write).toList ++ rest) =
        readArguments { file } rest :=
    readArguments_setting (u := fun file => { file }) (fun _ => rfl)
      (fun _ e => hpath (e ▸ h.file_ne)) rest
  have hconfig (rest : List Text) :
      readArguments { file } ((config.map Setting.config.write).toList ++ rest) =
        readArguments { file, config } rest :=
    readArguments_setting (u := fun config => { file, config }) (fun _ => rfl)
      (fun _ e => hpath (e ▸ h.config_ne)) rest
  have htags (rest : List Text) :
      readArguments { file, config }
          ((tags.map fun b => Setting.tags.write (boolText b)).toList ++ rest) =
        readArguments { file, config, tags } rest :=
    readArguments_setting (u := fun tags => { file, config, tags }) (fun _ => rfl)
      (fun b _ => bool?_boolText b) rest
  have hattributeNames (rest : List Text) :
      readArguments { file, config, tags }
          ((attributeNames.map fun b => Setting.attributeNames.write (boolText b)).toList ++
            rest) =
        readArguments { file, config, tags, attributeNames } rest :=
    readArguments_setting (u := fun attributeNames => { file, config, tags, attributeNames })
      (fun _ => rfl) (fun b _ => bool?_boolText b) rest
  have hjson (rest : List Text) :
      readArguments { file, config, tags, attributeNames }
          ((if json then ["--json".toList] else []) ++ rest) =
        readArguments { file, config, tags, attributeNames, json } rest :=
    readArguments_switch (u := fun json => { file, config, tags, attributeNames, json })
      (by decide) rfl json rest
  have hxml (rest : List Text) :
      readArguments { file, config, tags, attributeNames, json }
          ((if xml then ["--xml".toList] else []) ++ rest) =
        readArguments { file, config, tags, attributeNames, json, xml } rest :=
    readArguments_switch (u := fun xml => { file, config, tags, attributeNames, json, xml })
      (by decide) rfl xml rest
  rw [Request.ofArguments?, Arguments.commandLine, hfile, hconfig, htags, hattributeNames, hjson,
    hxml, readArguments, if_pos rfl]
  rfl

/-- What can be asked for: anything, as long as no path is empty. -/
theorem exists_ofArguments?_iff :
    (∃ args, Request.ofArguments? args = some (.run a)) ↔ a.NamesFiles := by
  constructor
  · rintro ⟨args, h⟩
    exact namesFiles_of_ofArguments? h
  · intro h
    exact ⟨a.commandLine, ofArguments?_commandLine h⟩

end CssSelector.CommandLine
