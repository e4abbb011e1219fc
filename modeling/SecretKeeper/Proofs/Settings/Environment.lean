import SecretKeeper.Proofs.Settings.Loading
import SecretKeeper.Proofs.Text.Case

/-!
Settings from an environment, exactly. A text that is no number of milliseconds is a problem, and
the first one is told, whatever else is set; otherwise the settings are those that the variables
ask for, or a refusal that tells which of them are out of bounds. Bytes that are no text pass for
a variable that is not set.
-/
namespace SecretKeeper

open Text

namespace Environment

def timingKeys : List String := ["SECRETFS_FRESH_THRESHOLD_MS",
  "SECRETFS_SECRET_FETCH_TIMEOUT_MS", "SECRETFS_SECRET_LIST_FETCH_TIMEOUT_MS"]

def keys : List String :=
  timingKeys ++ ["SECRETFS_DEBUG", "SECRETFS_MOUNTPOINT", "SECRETFS_LOG_JSON"]

/-- A numeral that fits into a word of 64 bits, with white space around it or none. -/
def AsksFor (text : String) (n : Nat) : Prop :=
  ∃ core, Within text.toList core ∧ IsNumeral 10 core n ∧ n ≤ 18446744073709551615

def MeansYes (text : String) : Prop :=
  ∃ word ∈ ["1", "true", "yes", "on"], Lowers text.toList word.toList

theorem asksFor_iff (text : String) (n : Nat) :
    AsksFor text n ↔ readNumeral 10 (Nat.pow 2 64 - 1) (trim text.toList) = .ok n := by
  have word : Nat.pow 2 64 - 1 = 18446744073709551615 := by decide
  rw [readNumeral_eq_ok_iff (by decide), word]
  constructor
  · rintro ⟨core, within, numeral⟩
    rw [(trim_eq_iff _ _).mpr within]
    exact numeral
  · intro numeral
    exact ⟨_, trim_within _, numeral⟩

theorem isYes_iff (text : String) : isYes text = true ↔ MeansYes text := by
  have plain : ∀ word ∈ ["1", "true", "yes", "on"],
      ∀ c ∈ word.toList, c ≠ 'k' ∧ c.toNat < 128 := by
    simp
  simp only [isYes, MeansYes, List.contains_iff_mem]
  constructor
  · intro member
    exact ⟨_, member, (lowers_iff (plain _ member) _).mpr (String.toList_ofList).symm⟩
  · rintro ⟨word, member, lowers⟩
    rw [(lowers_iff (plain word member) _).mp lowers, String.ofList_toList]
    exact member

section Variable
variable (env : Environment) (key : String)

def Legible : Prop := env key = none ∨ ∃ text, env.Holds key text

def Illegible : Prop := ∃ bytes, env key = some bytes ∧ ∀ text : String, bytes ≠ text.toUTF8.toList

def Unusable : Prop := ∃ text, env.Holds key text ∧ ∀ n, ¬AsksFor text n

/-- The number of milliseconds that a variable sets, or the default if it is not set. -/
def Gives (default ms : UInt64) : Prop :=
  env key = none ∧ ms = default ∨ ∃ text, env.Holds key text ∧ AsksFor text ms.toNat

/-- The same with the default also for bytes that are no text. -/
def Takes (default ms : UInt64) : Prop :=
  (env key = none ∨ env.Illegible key) ∧ ms = default ∨
    ∃ text, env.Holds key text ∧ AsksFor text ms.toNat

def SaysYes : Prop := ∃ text, env.Holds key text ∧ MeansYes text

/-- The variable is not set and the path is empty, or the path is the text of the variable without
the white space around it. -/
def Names (path : String) : Prop :=
  env key = none ∧ path = "" ∨ ∃ text, env.Holds key text ∧ Within text.toList path.toList

theorem holds_iff (text : String) : env.Holds key text ↔ env.text? key = some text := by
  constructor
  · exact Holds.text
  · intro found
    obtain ⟨bytes, set, decoded⟩ := Option.bind_eq_some_iff.mp found
    have same : text.toUTF8 = bytes.toByteArray := by
      unfold String.fromUTF8? at decoded
      split at decoded
      · exact congrArg String.toUTF8 (Option.some.inj decoded).symm
      · cases decoded
    rw [Holds, set, same, toList_toByteArray]

theorem text_eq_none_iff : env.text? key = none ↔ env key = none ∨ env.Illegible key := by
  constructor
  · intro none
    cases set : env key with
    | none => exact Or.inl rfl
    | some bytes =>
      refine Or.inr ⟨bytes, set, ?_⟩
      intro text same
      have holds : env.Holds key text := by rw [Holds, set, same]
      rw [(holds_iff env key text).mp holds] at none
      cases none
  · rintro (unset | ⟨bytes, set, noText⟩)
    · rw [text?, unset, Option.bind_none]
    · refine Option.eq_none_iff_forall_ne_some.mpr fun text found => noText text ?_
      have holds := (holds_iff env key text).mpr found
      exact Option.some.inj (set.symm.trans holds)

variable {env key} in
theorem Legible.unset_iff (legible : env.Legible key) :
    env.text? key = none ↔ env key = none := by
  rw [text_eq_none_iff]
  constructor
  · rintro (unset | ⟨bytes, set, noText⟩)
    · exact unset
    · rcases legible with unset | ⟨text, holds⟩
      · exact unset
      · exact absurd (Option.some.inj (set.symm.trans holds)) (noText text)
  · exact Or.inl

theorem flag_iff : env.flag key = true ↔ env.SaysYes key := by
  simp only [flag, SaysYes, holds_iff, ← isYes_iff, Option.any_eq_true]

theorem millis_eq_ok_iff (default ms : UInt64) :
    env.millis key default = .ok ms ↔ env.Takes key default ms := by
  simp only [millis, Takes, ← text_eq_none_iff, holds_iff, asksFor_iff]
  cases env.text? key with
  | none => simp [eq_comm]
  | some text =>
    cases read : readNumeral 10 (Nat.pow 2 64 - 1) (trim text.toList) with
    | error fault => simp [read]
    | ok n =>
      have bound := ((readNumeral_eq_ok_iff (by decide) _ n).mp read).2
      have word : Nat.pow 2 64 - 1 = 18446744073709551615 := by decide
      have size : UInt64.size = 18446744073709551616 := rfl
      have fits : n < UInt64.size := by omega
      have same : UInt64.ofNat n = ms ↔ n = ms.toNat := by
        rw [← UInt64.toNat_inj, UInt64.toNat_ofNat_of_lt' fits]
      simp [read, same]

theorem millis_of_unusable (unusable : env.Unusable key) : ∃ fault, ∀ default,
    env.millis key default =
      .error (.configuration ("Invalid " ++ key ++ ": " ++ NumeralFault.message fault)) := by
  obtain ⟨text, holds, noNumber⟩ := unusable
  have found := (holds_iff env key text).mp holds
  cases read : readNumeral 10 (Nat.pow 2 64 - 1) (trim text.toList) with
  | ok n => exact absurd ((asksFor_iff text n).mpr read) (noNumber n)
  | error fault =>
    refine ⟨fault, fun default => ?_⟩
    rw [millis, found]
    simp only [read]
    rfl

theorem millis_of_usable (usable : ¬env.Unusable key) (default : UInt64) :
    ∃ ms, env.millis key default = .ok ms ∧ env.Takes key default ms := by
  suffices read : ∃ ms, env.millis key default = .ok ms by
    obtain ⟨ms, given⟩ := read
    exact ⟨ms, given, (millis_eq_ok_iff env key default ms).mp given⟩
  cases found : env.text? key with
  | none => exact ⟨default, by rw [millis, found]⟩
  | some text =>
    cases read : readNumeral 10 (Nat.pow 2 64 - 1) (trim text.toList) with
    | ok n => exact ⟨UInt64.ofNat n, by rw [millis, found]; simp only [read]⟩
    | error fault =>
      refine absurd ⟨text, (holds_iff env key text).mpr found, ?_⟩ usable
      intro n asks
      rw [(asksFor_iff text n).mp asks] at read
      cases read

theorem unusable_of_millis {default : UInt64} {p : Problem}
    (fault : env.millis key default = .error p) : env.Unusable key := by
  refine Classical.byContradiction fun usable => ?_
  obtain ⟨ms, given, _⟩ := millis_of_usable env key usable default
  rw [fault] at given
  cases given

end Variable

section Timing
variable (env : Environment)

/-- The variable cannot be used, and all variables asked before it can. -/
def FirstUnusable (key : String) : Prop := ∃ before after,
  timingKeys = before ++ key :: after ∧ env.Unusable key ∧ ∀ other ∈ before, ¬env.Unusable other

structure Times (t : TimingSettings) : Prop where
  freshThreshold : env.Takes "SECRETFS_FRESH_THRESHOLD_MS" 1000 t.freshThreshold
  secretDeadline : env.Takes "SECRETFS_SECRET_FETCH_TIMEOUT_MS" 500 t.secretDeadline
  listDeadline : env.Takes "SECRETFS_SECRET_LIST_FETCH_TIMEOUT_MS" 5000 t.listDeadline

theorem first_unusable_or_none :
    (∃ key, env.FirstUnusable key) ∨ ∀ key ∈ timingKeys, ¬env.Unusable key := by
  classical
  cases found : timingKeys.find? fun key => env.Unusable key with
  | none =>
    right
    intro key listed unusable
    exact List.find?_eq_none.mp found key listed (decide_eq_true unusable)
  | some key =>
    left
    obtain ⟨unusable, before, after, split, usable⟩ := List.find?_eq_some_iff_append.mp found
    refine ⟨key, before, after, split, of_decide_eq_true unusable, ?_⟩
    intro other member
    simpa using usable other member

theorem timing_places {key : String} {before after : List String}
    (split : timingKeys = before ++ key :: after) :
    key = "SECRETFS_FRESH_THRESHOLD_MS" ∨
    key = "SECRETFS_SECRET_FETCH_TIMEOUT_MS" ∧ before = ["SECRETFS_FRESH_THRESHOLD_MS"] ∨
    key = "SECRETFS_SECRET_LIST_FETCH_TIMEOUT_MS" ∧
      before = ["SECRETFS_FRESH_THRESHOLD_MS", "SECRETFS_SECRET_FETCH_TIMEOUT_MS"] := by
  rcases before with _ | ⟨fresh, _ | ⟨secret, _ | ⟨list, rest⟩⟩⟩ <;>
    simp_all [timingKeys]

theorem timing_of_first {key : String} (first : env.FirstUnusable key) : ∃ fault, env.timing =
    .error (.configuration ("Invalid " ++ key ++ ": " ++ NumeralFault.message fault)) := by
  obtain ⟨before, after, split, unusable, usable⟩ := first
  obtain ⟨fault, told⟩ := millis_of_unusable env key unusable
  refine ⟨fault, ?_⟩
  have given := fun other earlier => millis_of_usable env other (usable other earlier)
  rcases timing_places split with rfl | ⟨rfl, rfl⟩ | ⟨rfl, rfl⟩
  · rw [timing, told]
    rfl
  · obtain ⟨fresh, read, _⟩ := given _ List.mem_cons_self TimingSettings.default.freshThreshold
    rw [timing, read, told]
    rfl
  · obtain ⟨fresh, read, _⟩ := given _ List.mem_cons_self TimingSettings.default.freshThreshold
    obtain ⟨secret, read', _⟩ :=
      given _ (List.mem_cons_of_mem _ List.mem_cons_self) TimingSettings.default.secretDeadline
    rw [timing, read, read', told]
    rfl

theorem usable_of_timing {t : TimingSettings} (given : env.timing = .ok t) :
    ∀ key ∈ timingKeys, ¬env.Unusable key := by
  rcases env.first_unusable_or_none with ⟨key, first⟩ | none
  · obtain ⟨fault, told⟩ := env.timing_of_first first
    rw [given] at told
    cases told
  · exact none

theorem timing_eq_ok_iff (t : TimingSettings) : env.timing = .ok t ↔ env.Times t := by
  have parts : env.timing = .ok t ↔
      env.millis "SECRETFS_FRESH_THRESHOLD_MS" 1000 = .ok t.freshThreshold ∧
      env.millis "SECRETFS_SECRET_FETCH_TIMEOUT_MS" 500 = .ok t.secretDeadline ∧
      env.millis "SECRETFS_SECRET_LIST_FETCH_TIMEOUT_MS" 5000 = .ok t.listDeadline := by
    unfold timing TimingSettings.default
    cases env.millis "SECRETFS_FRESH_THRESHOLD_MS" 1000 with
    | error p => simp [bind, Except.bind]
    | ok fresh =>
      cases env.millis "SECRETFS_SECRET_FETCH_TIMEOUT_MS" 500 with
      | error p => simp [bind, Except.bind]
      | ok secret =>
        cases env.millis "SECRETFS_SECRET_LIST_FETCH_TIMEOUT_MS" 5000 with
        | error p => simp [bind, Except.bind]
        | ok list => cases t; simp [bind, Except.bind, pure, Except.pure]
  simp only [parts, millis_eq_ok_iff]
  constructor
  · rintro ⟨fresh, secret, list⟩
    exact ⟨fresh, secret, list⟩
  · intro times
    exact ⟨times.freshThreshold, times.secretDeadline, times.listDeadline⟩

theorem timing_of_usable (usable : ∀ key ∈ timingKeys, ¬env.Unusable key) :
    ∃ t, env.timing = .ok t := by
  have given := fun key listed => millis_of_usable env key (usable key listed)
  obtain ⟨fresh, _, takes⟩ :=
    given "SECRETFS_FRESH_THRESHOLD_MS" (by simp [timingKeys]) 1000
  obtain ⟨secret, _, takes'⟩ :=
    given "SECRETFS_SECRET_FETCH_TIMEOUT_MS" (by simp [timingKeys]) 500
  obtain ⟨list, _, takes''⟩ :=
    given "SECRETFS_SECRET_LIST_FETCH_TIMEOUT_MS" (by simp [timingKeys]) 5000
  exact ⟨⟨fresh, secret, list⟩, (timing_eq_ok_iff env _).mpr ⟨takes, takes', takes''⟩⟩

end Timing

section Candidate
variable {env : Environment}

/-- Settings that variables which are texts ask for, in bounds or out of them. -/
structure Candidate (env : Environment) (s : Settings) : Prop where
  freshThreshold : env.Gives "SECRETFS_FRESH_THRESHOLD_MS" 1000 s.timing.freshThreshold
  secretDeadline : env.Gives "SECRETFS_SECRET_FETCH_TIMEOUT_MS" 500 s.timing.secretDeadline
  listDeadline : env.Gives "SECRETFS_SECRET_LIST_FETCH_TIMEOUT_MS" 5000 s.timing.listDeadline
  debug : s.log.debug = true ↔ env.SaysYes "SECRETFS_DEBUG"
  mountpoint : env.Names "SECRETFS_MOUNTPOINT" s.log.mountpoint
  json : s.log.json = true ↔ env.SaysYes "SECRETFS_LOG_JSON"

theorem Legible.takes_iff {key : String} (legible : env.Legible key) (default ms : UInt64) :
    env.Takes key default ms ↔ env.Gives key default ms := by
  rw [Takes, Gives, ← text_eq_none_iff, legible.unset_iff]

theorem Legible.mountpoint_eq_iff (legible : env.Legible "SECRETFS_MOUNTPOINT") (path : String) :
    env.mountpoint = path ↔ env.Names "SECRETFS_MOUNTPOINT" path := by
  have trimmed (text : String) :
      String.ofList (trim text.toList) = path ↔ Within text.toList path.toList := by
    rw [← trim_eq_iff, ← String.toList_inj, String.toList_ofList]
  simp only [Names, ← legible.unset_iff, holds_iff, mountpoint]
  cases env.text? "SECRETFS_MOUNTPOINT" with
  | none => simp [eq_comm]
  | some text => simp [trimmed]

theorem candidate_iff (legible : ∀ key ∈ keys, env.Legible key) (s : Settings) :
    env.Candidate s ↔ env.timing = .ok s.timing ∧ env.log = s.log := by
  have fresh := (legible "SECRETFS_FRESH_THRESHOLD_MS" (by simp [keys, timingKeys])).takes_iff
  have secret :=
    (legible "SECRETFS_SECRET_FETCH_TIMEOUT_MS" (by simp [keys, timingKeys])).takes_iff
  have list :=
    (legible "SECRETFS_SECRET_LIST_FETCH_TIMEOUT_MS" (by simp [keys, timingKeys])).takes_iff
  have path := (legible "SECRETFS_MOUNTPOINT" (by simp [keys])).mountpoint_eq_iff
  have log : env.log = s.log ↔ env.flag "SECRETFS_DEBUG" = s.log.debug ∧
      env.mountpoint = s.log.mountpoint ∧ env.flag "SECRETFS_LOG_JSON" = s.log.json := by
    cases s.log
    simp [Environment.log]
  rw [log, timing_eq_ok_iff, path]
  constructor
  · intro asked
    refine ⟨⟨(fresh _ _).mpr asked.freshThreshold, (secret _ _).mpr asked.secretDeadline,
      (list _ _).mpr asked.listDeadline⟩, ?_, asked.mountpoint, ?_⟩
    · exact Bool.eq_iff_iff.mpr ((flag_iff env _).trans asked.debug.symm)
    · exact Bool.eq_iff_iff.mpr ((flag_iff env _).trans asked.json.symm)
  · rintro ⟨times, debug, named, json⟩
    refine ⟨(fresh _ _).mp times.freshThreshold, (secret _ _).mp times.secretDeadline,
      (list _ _).mp times.listDeadline, ?_, named, ?_⟩
    · rw [← debug, flag_iff]
    · rw [← json, flag_iff]

end Candidate

def ofTexts (texts : List (String × String)) : Environment := fun key =>
  (texts.lookup key).map fun text => text.toUTF8.toList

theorem ofTexts_legible (texts : List (String × String)) (key : String) :
    (ofTexts texts).Legible key := by
  unfold Legible Holds ofTexts
  cases texts.lookup key with
  | none => exact Or.inl rfl
  | some text => exact Or.inr ⟨text, rfl⟩

end Environment

namespace Settings

open Environment

/-- What is told of settings that break bounds: the bounds, in the order of the paths, and one
field on its own if it is the only one. -/
structure Refusal (s : Settings) (told : List Failure) (field : Option String) : Prop where
  broken : ∀ path, path ∈ told.map Failure.path ↔ s.Breaks path
  ordered : (told.map Failure.path).Pairwise (· < ·)
  field : ∀ path, field = some path ↔ ∀ other, s.Breaks other ↔ other = path

theorem broken_refusal (s : Settings) : s.Refusal s.broken (Failure.soleField s.broken) :=
  ⟨s.mem_broken, s.broken_ordered, s.soleField_broken⟩

section
variable {env : Environment}

theorem ofEnvironment_of_timing {t : TimingSettings} (given : env.timing = .ok t) :
    ofEnvironment env = checked ⟨t, env.log⟩ := by
  rw [ofEnvironment, given]
  rfl

theorem ofEnvironment_of_first {key : String} (first : env.FirstUnusable key) : ∃ fault,
    ofEnvironment env =
      .error (.configuration ("Invalid " ++ key ++ ": " ++ NumeralFault.message fault)) := by
  obtain ⟨fault, told⟩ := timing_of_first env first
  refine ⟨fault, ?_⟩
  rw [ofEnvironment, told]
  rfl

end

/-- If a variable that is to be a number is not, the first such variable is told. Otherwise the
variables ask for one choice of settings, which is given back exactly if it keeps to all bounds,
and which is refused with all bounds that it breaks if it does not. -/
theorem environments_are_read (env : Environment) (legible : ∀ key ∈ keys, env.Legible key) :
    ((∃ key ∈ timingKeys, env.Unusable key) → ∃ key, env.FirstUnusable key ∧ ∃ fault,
      ofEnvironment env =
        .error (.configuration ("Invalid " ++ key ++ ": " ++ NumeralFault.message fault))) ∧
    ((∀ key ∈ timingKeys, ¬env.Unusable key) → ∃ s, env.Candidate s ∧
      (∀ other, env.Candidate other → other = s) ∧ (ofEnvironment env = .ok s ↔ s.InBounds) ∧
      (¬s.InBounds → ∃ told field, s.Refusal told field ∧ ofEnvironment env = .error (.validation
        ("Validation failed: " ++ "; ".intercalate (told.map Failure.describe)) field))) := by
  constructor
  · intro some
    rcases env.first_unusable_or_none with ⟨key, first⟩ | none
    · exact ⟨key, first, ofEnvironment_of_first first⟩
    · obtain ⟨key, listed, unusable⟩ := some
      exact absurd unusable (none key listed)
  · intro usable
    obtain ⟨t, given⟩ := env.timing_of_usable usable
    have candidate : env.Candidate ⟨t, env.log⟩ := (candidate_iff legible _).mpr ⟨given, rfl⟩
    have outcome := ofEnvironment_of_timing given
    refine ⟨⟨t, env.log⟩, candidate, ?_, ?_, ?_⟩
    · intro other candidate'
      obtain ⟨timing, log⟩ := (candidate_iff legible other).mp candidate'
      rw [given] at timing
      cases other
      cases timing
      cases log
      rfl
    · rw [outcome, checked_eq, ← broken_eq_nil_iff, ← List.isEmpty_iff]
      split
      · rename_i none
        exact iff_of_true rfl none
      · rename_i some
        exact iff_of_false (fun same => by cases same) some
    · intro out
      refine ⟨_, _, broken_refusal _, ?_⟩
      rw [outcome, checked_eq, if_neg]
      intro none
      exact out ((broken_eq_nil_iff _).mp (List.isEmpty_iff.mp none))

/-- The greatest number with a sign, zeros and blanks around it; two numbers that cannot be read;
and a deadline of nothing. -/
theorem environments_are_read_in_three_ways :
    let kept := ofTexts [("SECRETFS_FRESH_THRESHOLD_MS", "\u2003+0018446744073709551615\n"),
      ("SECRETFS_DEBUG", "YeS"), ("SECRETFS_MOUNTPOINT", " /mnt/é\t"), ("SECRETFS_LOG_JSON", "on ")]
    let wrong := ofTexts [("SECRETFS_SECRET_LIST_FETCH_TIMEOUT_MS", "-1"),
      ("SECRETFS_SECRET_FETCH_TIMEOUT_MS", "18446744073709551616")]
    let beyond := ofTexts [("SECRETFS_SECRET_FETCH_TIMEOUT_MS", "0")]
    let s : Settings := ⟨⟨18446744073709551615, 500, 5000⟩, ⟨true, "/mnt/é", false⟩⟩
    let s' : Settings := ⟨⟨1000, 0, 5000⟩, LogSettings.default⟩
    (∀ key ∈ keys, kept.Legible key ∧ wrong.Legible key ∧ beyond.Legible key) ∧
      kept.Candidate s ∧ s.InBounds ∧ ofEnvironment kept = .ok s ∧
      (∃ key, wrong.FirstUnusable key ∧ ∃ fault, ofEnvironment wrong =
        .error (.configuration ("Invalid " ++ key ++ ": " ++ NumeralFault.message fault))) ∧
      ofEnvironment wrong = .error (.configuration ("Invalid SECRETFS_SECRET_FETCH_TIMEOUT_MS: " ++
        "number too large to fit in target type")) ∧
      beyond.Candidate s' ∧ ¬s'.InBounds ∧ ∃ told field, s'.Refusal told field ∧
        ofEnvironment beyond = .error (.validation
          ("Validation failed: " ++ "; ".intercalate (told.map Failure.describe)) field) := by
  intro kept wrong beyond s s'
  have legible : ∀ key ∈ keys, kept.Legible key := fun key _ => ofTexts_legible _ key
  have legible' : ∀ key ∈ keys, wrong.Legible key := fun key _ => ofTexts_legible _ key
  have legible'' : ∀ key ∈ keys, beyond.Legible key := fun key _ => ofTexts_legible _ key
  have timing : kept.timing = .ok s.timing := by decide +kernel
  have timing' : beyond.timing = .ok s'.timing := by decide +kernel
  have candidate : kept.Candidate s := (candidate_iff legible s).mpr ⟨timing, by decide +kernel⟩
  have candidate' : beyond.Candidate s' :=
    (candidate_iff legible'' s').mpr ⟨timing', by decide +kernel⟩
  have bounds : s.InBounds := by
    constructor <;> decide
  have out : ¬s'.InBounds := fun bounds => absurd bounds.secretDeadline (by decide)
  obtain ⟨_, _, sole, outcome, _⟩ :=
    (environments_are_read kept legible).2 (kept.usable_of_timing timing)
  obtain ⟨_, _, sole', _, refused⟩ :=
    (environments_are_read beyond legible'').2 (beyond.usable_of_timing timing')
  have same := sole s candidate
  have same' := sole' s' candidate'
  subst same same'
  refine ⟨fun key listed => ⟨legible key listed, legible' key listed, legible'' key listed⟩,
    candidate, bounds, outcome.mpr bounds, ?_, by decide +kernel, candidate', out, refused out⟩
  have fault : wrong.millis "SECRETFS_SECRET_LIST_FETCH_TIMEOUT_MS" 0 = .error (.configuration
      "Invalid SECRETFS_SECRET_LIST_FETCH_TIMEOUT_MS: invalid digit found in string") := by
    decide +kernel
  exact (environments_are_read wrong legible').1
    ⟨_, by simp [timingKeys], unusable_of_millis wrong _ fault⟩

/-- No problem but a text that is no number is told before the bounds are checked. Bytes that are
no text leave the default. -/
theorem only_texts_are_faulty (env : Environment) :
    ((∃ message, ofEnvironment env = .error (.configuration message)) ↔
      ∃ key ∈ timingKeys, env.Unusable key) ∧
    ((∀ key ∈ timingKeys, ¬env.Unusable key) →
      ∃ t, env.Times t ∧ ofEnvironment env = checked ⟨t, env.log⟩) := by
  constructor
  · constructor
    · rintro ⟨message, told⟩
      refine Classical.byContradiction fun none => ?_
      obtain ⟨t, given⟩ := env.timing_of_usable fun key listed unusable =>
        none ⟨key, listed, unusable⟩
      rw [ofEnvironment_of_timing given, checked_eq] at told
      split at told <;> cases told
    · rintro ⟨key, listed, unusable⟩
      rcases env.first_unusable_or_none with ⟨first, unusable⟩ | none
      · obtain ⟨fault, told⟩ := ofEnvironment_of_first unusable
        exact ⟨_, told⟩
      · exact absurd unusable (none key listed)
  · intro usable
    obtain ⟨t, given⟩ := env.timing_of_usable usable
    exact ⟨t, (env.timing_eq_ok_iff t).mp given, ofEnvironment_of_timing given⟩

theorem only_texts_are_faulty_beside_bytes :
    let bytes : Environment := fun key =>
      List.lookup key [("SECRETFS_SECRET_FETCH_TIMEOUT_MS", [0x35, 0xC3, 0x30])]
    let both : Environment := fun key =>
      List.lookup key [("SECRETFS_SECRET_FETCH_TIMEOUT_MS", [0x35, 0xC3, 0x30]),
        ("SECRETFS_SECRET_LIST_FETCH_TIMEOUT_MS", [0x35, 0x78])]
    (∃ message, ofEnvironment both = .error (.configuration message)) ∧
      (∀ key ∈ timingKeys, ¬bytes.Unusable key) ∧
      ∃ t, bytes.Times t ∧ ofEnvironment bytes = checked ⟨t, bytes.log⟩ := by
  intro bytes both
  have timing : bytes.timing = .ok TimingSettings.default := by decide +kernel
  have fault : both.millis "SECRETFS_SECRET_LIST_FETCH_TIMEOUT_MS" 0 = .error (.configuration
      "Invalid SECRETFS_SECRET_LIST_FETCH_TIMEOUT_MS: invalid digit found in string") := by
    decide +kernel
  have usable := bytes.usable_of_timing timing
  exact ⟨(only_texts_are_faulty both).1.mpr
    ⟨_, by simp [timingKeys], unusable_of_millis both _ fault⟩, usable,
    (only_texts_are_faulty bytes).2 usable⟩

/-- A number of milliseconds that is one byte, and no text, passes for one that is not set. -/
theorem byte_without_text_is_ignored :
    let env : Environment := fun key => List.lookup key [("SECRETFS_FRESH_THRESHOLD_MS", [0xFF])]
    env.Illegible "SECRETFS_FRESH_THRESHOLD_MS" ∧ ofEnvironment env = .ok Settings.default := by
  intro env
  refine ⟨?_, by decide +kernel⟩
  have noText : env.text? "SECRETFS_FRESH_THRESHOLD_MS" = none := by decide +kernel
  rcases (text_eq_none_iff env _).mp noText with unset | illegible
  · cases unset
  · exact illegible

end Settings
end SecretKeeper
