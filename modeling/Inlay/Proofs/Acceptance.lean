import Inlay.CommandLine
import Inlay.Proofs.Blocks

/-!
# Accepted settings

Configurations, the environment and the command line are checked apart from each other. A
configuration that was read, and so also one laid over another, is `Sound`, and so are options that
were read; every resolved configuration has positive counts, and so have the settings of a run. The
timeout is the exception: only the command line asks for at least a millisecond, so that a
configuration can leave a run without time.
-/

namespace Inlay

def Positive (count : Option Nat) : Prop := ∀ n ∈ count, 1 ≤ n

theorem Positive.none : Positive none := nofun

theorem Positive.some {n : Nat} (h : 1 ≤ n) : Positive (some n) := by
  rintro _ ⟨⟩
  exact h

theorem Positive.orElse {above below : Option Nat} (ha : Positive above) (hb : Positive below) :
    Positive (above <|> below) := by
  cases above with
  | none => simpa using hb
  | some _ => simpa using ha

theorem Positive.getD {count : Option Nat} (h : Positive count) {default : Nat}
    (hd : 1 ≤ default) : 1 ≤ count.getD default := by
  cases count with
  | none => exact hd
  | some n => exact h n rfl

-- ---------------------------------------------------------------------------
-- Configurations
-- ---------------------------------------------------------------------------

/-- Counts are positive, and a timeout is a duration. -/
structure Config.Sound (c : Config) : Prop where
  lineLength : Positive c.lineLength
  statementLength : Positive c.statementLength
  concurrency : Positive c.concurrency
  timeout : ∀ d ∈ c.timeout, ∃ n, d.toMillis = .ok n
  tabWidth : ∀ i ∈ c.indentation, Positive i.tabWidth

namespace Config

theorem sound_empty : Sound empty := ⟨nofun, nofun, nofun, nofun, nofun⟩

theorem positive_of_readKey {members : Json.Members} {key : ConfigKey} {count : Option Nat}
    (h : readKey readCount members key = .ok count) : Positive count := by
  unfold readKey at h
  split at h
  · cases h; exact .none
  · split at h
    · next n hn =>
      cases h
      unfold readCount at hn
      split at hn
      · exact .some (Number.one_le_of_toPositive? hn)
      · cases hn
    · cases h

theorem checkDuration_ok {timeout : Option Duration} {u : Unit}
    (h : checkDuration timeout = .ok u) : ∀ d ∈ timeout, ∃ n, d.toMillis = .ok n := by
  rintro d ⟨⟩
  cases hd : d.toMillis with
  | ok n => exact ⟨n, rfl⟩
  | error e => simp [checkDuration, hd, Except.mapError, Except.map] at h

theorem readIndentation_ok {members : Json.Members} {i : IndentationConfig}
    (h : readIndentation members = .ok i) : Positive i.tabWidth := by
  simp only [readIndentation, bind_eq_ok_iff, pure_eq_ok_iff] at h
  obtain ⟨_, _, _, hw, rfl⟩ := h
  exact positive_of_readKey hw

theorem mapM_ok {f : α → Except ε β} {P : β → Prop} (hf : ∀ a b, f a = .ok b → P b)
    {value : Option α} {result : Option β} (h : value.mapM f = .ok result) :
    ∀ b ∈ result, P b := by
  cases value with
  | none => cases h; nofun
  | some a =>
    simp only [Option.mapM_some, Functor.map, map_eq_ok_iff] at h
    obtain ⟨b, hb, rfl⟩ := h
    rintro _ ⟨⟩
    exact hf a _ hb

theorem sound_ofJson {value : Json} {c : Config} (h : ofJson value = .ok c) : c.Sound := by
  unfold ofJson at h
  split at h
  · simp only [ofMembers, bind_eq_ok_iff, pure_eq_ok_iff] at h
    obtain ⟨_, hl, _, hs, _, hc, _, _, _, ht, _, _, _, _, _, _, _, _, _, _, _, hi, rfl⟩ := h
    exact {
      lineLength := positive_of_readKey hl
      statementLength := positive_of_readKey hs
      concurrency := positive_of_readKey hc
      timeout := checkDuration_ok ht
      tabWidth := mapM_ok (fun _ _ => readIndentation_ok) hi }
  · cases h

theorem Sound.merge {below above : Config} (hb : below.Sound) (ha : above.Sound) :
    (Config.merge below above).Sound where
  lineLength := ha.lineLength.orElse hb.lineLength
  statementLength := ha.statementLength.orElse hb.statementLength
  concurrency := ha.concurrency.orElse hb.concurrency
  timeout := by
    rintro d hd
    rcases Option.or_eq_some_iff.mp (by simpa [Config.merge] using hd) with h | ⟨_, h⟩
    · exact ha.timeout d h
    · exact hb.timeout d h
  tabWidth := by
    rintro i hi
    cases hbi : below.indentation with
    | none =>
      cases hai : above.indentation with
      | none => simp [Config.merge, both, hai, hbi] at hi
      | some a =>
        obtain rfl : a = i := by simpa [Config.merge, both, hai, hbi] using hi
        exact ha.tabWidth _ hai
    | some b =>
      cases hai : above.indentation with
      | none =>
        obtain rfl : b = i := by simpa [Config.merge, both, hai, hbi] using hi
        exact hb.tabWidth _ hbi
      | some a =>
        obtain rfl : mergeIndentation b a = i := by simpa [Config.merge, both, hai, hbi] using hi
        exact (ha.tabWidth _ hai).orElse (hb.tabWidth _ hbi)

end Config

theorem ConfigFile.sound_config (f : ConfigFile) : f.config.Sound := by
  cases hconfig : f.config? with
  | none =>
    rw [config, hconfig]
    exact Config.sound_empty
  | some c =>
    rw [config, hconfig]
    unfold config? at hconfig
    split at hconfig
    · cases hconfig
      exact Config.sound_empty
    · obtain ⟨_, -, hread⟩ := Option.bind_eq_some_iff.mp hconfig
      obtain ⟨value, -, hc⟩ := Option.bind_eq_some_iff.mp hread
      cases hvalue : Config.ofJson value with
      | error => simp [hvalue, Except.toOption] at hc
      | ok =>
        rw [hvalue] at hc
        cases hc
        exact Config.sound_ofJson hvalue

theorem ConfigFiles.sound_merged (files : ConfigFiles) : files.merged.Sound :=
  files.user.sound_config.merge files.project.sound_config

-- ---------------------------------------------------------------------------
-- The environment and the command line
-- ---------------------------------------------------------------------------

theorem one_le_concurrencyOfEnvironment (value : Option Text) :
    1 ≤ concurrencyOfEnvironment value := by
  unfold concurrencyOfEnvironment
  split
  · next h =>
    obtain ⟨i, _, hi⟩ := Option.bind_eq_some_iff.mp h
    exact Number.one_le_of_toPositive? hi
  · decide

/-- Counts are positive, and the timeout is a millisecond or more. -/
structure Options.Sound (o : Options) : Prop where
  lineLength : Positive o.lineLength
  statementLength : Positive o.statementLength
  concurrency : Positive o.concurrency
  timeout : ∀ n ∈ o.timeout, n.lt (.ofNat 1) = false
  tabWidth : Positive o.tabWidth

namespace Options

theorem sound_empty : Sound empty := ⟨nofun, nofun, nofun, nofun, nofun⟩

theorem readCount_ok {option value : Text} {n : Nat} (h : readCount option value = .ok n) :
    Positive (some n) := by
  cases hn : Count.ofText option value with
  | ok m =>
    obtain rfl : m = n := by simpa [readCount, hn, Except.mapError] using h
    exact .some (Count.one_le_of_ofText hn)
  | error e => simp [readCount, hn, Except.mapError] at h

theorem readTimeout_ok {option value : Text} {n : Number} (h : readTimeout option value = .ok n) :
    ∀ m ∈ some n, m.lt (.ofNat 1) = false := by
  rintro _ ⟨⟩
  unfold readTimeout at h
  split at h
  · cases h
  · split at h
    · cases h
    · next hn => cases h; simpa using hn

theorem Sound.assign {v : ValueOption} {option value : Text} {o o' : Options} (ho : o.Sound)
    (h : o.assign v option value = .ok o') : o'.Sound := by
  cases v with
  | lineLength =>
    simp only [Options.assign, bind_eq_ok_iff, pure_eq_ok_iff] at h
    obtain ⟨n, hn, rfl⟩ := h
    exact { ho with lineLength := readCount_ok hn }
  | statementLength =>
    simp only [Options.assign, bind_eq_ok_iff, pure_eq_ok_iff] at h
    obtain ⟨n, hn, rfl⟩ := h
    exact { ho with statementLength := readCount_ok hn }
  | concurrency =>
    simp only [Options.assign, bind_eq_ok_iff, pure_eq_ok_iff] at h
    obtain ⟨n, hn, rfl⟩ := h
    exact { ho with concurrency := readCount_ok hn }
  | tabWidth =>
    simp only [Options.assign, bind_eq_ok_iff, pure_eq_ok_iff] at h
    obtain ⟨n, hn, rfl⟩ := h
    exact { ho with tabWidth := readCount_ok hn }
  | timeout =>
    simp only [Options.assign, bind_eq_ok_iff, pure_eq_ok_iff] at h
    obtain ⟨n, hn, rfl⟩ := h
    exact { ho with timeout := readTimeout_ok hn }
  | engine =>
    simp only [Options.assign] at h
    split at h
    · cases h; exact { ho with }
    · cases h
  | engineCommand => cases h; exact { ho with }
  | indentPolicy =>
    simp only [Options.assign] at h
    split at h
    · cases h; exact { ho with }
    · cases h

theorem Sound.switchOn {o : Options} (ho : o.Sound) (s : Switch) : (o.switchOn s).Sound := by
  cases s <;> exact { ho with }

theorem Sound.read {arguments : List Text} {o o' : Options} (ho : o.Sound)
    (h : o.read arguments = .ok o') : o'.Sound := by
  fun_induction Options.read o arguments with
  | case1 => cases h; exact ho
  | case2 _ _ _ _ ih => exact ih { ho with } h
  | case3 => cases h; exact { ho with }
  | case5 _ _ _ _ _ _ _ _ s _ ih => exact ih (ho.switchOn s) h
  | case6 _ _ _ _ _ _ _ _ _ _ hassign _ ih => exact ih (ho.assign hassign) h
  | case9 _ _ _ _ _ _ _ _ _ _ _ hassign _ ih => exact ih (ho.assign hassign) h
  | case4 | case7 | case8 | case10 | case11 => cases h

theorem sound_parse {arguments : List Text} {o : Options} (h : parse arguments = .ok o) :
    o.Sound := by
  simp only [parse, bind_eq_ok_iff] at h
  obtain ⟨read, hread, h⟩ := h
  have hsound := sound_empty.read hread
  unfold validate at h
  split_ifs at h
  cases h
  exact hsound

end Options

-- ---------------------------------------------------------------------------
-- Settings
-- ---------------------------------------------------------------------------

structure ResolvedConfig.Sound (c : ResolvedConfig) : Prop where
  lineLength : 1 ≤ c.lineLength
  statementLength : 1 ≤ c.statementLength
  concurrency : 1 ≤ c.concurrency
  tabWidth : 1 ≤ c.indentation.tabWidth

namespace Config.Sound

variable {c : Config} (hc : c.Sound) {environment : Option Text} {config : ResolvedConfig}

include hc

theorem exists_resolve (environment : Option Text) :
    ∃ config, c.resolve environment = .ok config := by
  cases ht : c.timeout with
  | none => exact ⟨_, by simp [Config.resolve, ht, bind, Except.bind, pure, Except.pure]; rfl⟩
  | some d =>
    obtain ⟨n, hn⟩ := hc.timeout d ht
    exact ⟨_, by simp [Config.resolve, ht, hn, bind, Except.bind, pure, Except.pure]; rfl⟩

theorem of_resolve (h : c.resolve environment = .ok config) : config.Sound := by
  have hconcurrency : 1 ≤ if environment.isSome then concurrencyOfEnvironment environment
      else c.concurrency.getD ResolvedConfig.default.concurrency := by
    split
    · exact one_le_concurrencyOfEnvironment environment
    · exact hc.concurrency.getD (by decide)
  have htabWidth : Positive (c.indentation.getD ⟨none, none⟩).tabWidth := by
    cases hi : c.indentation with
    | none => exact .none
    | some i => exact hc.tabWidth i hi
  cases ht : c.timeout <;> simp only [Config.resolve, ht, bind_eq_ok_iff, pure_eq_ok_iff] at h
  all_goals
    obtain ⟨_, _, rfl⟩ := h
    exact ⟨hc.lineLength.getD (by decide), hc.statementLength.getD (by decide), hconcurrency,
      htabWidth.getD (by decide)⟩

end Config.Sound

theorem Config.timeout_of_resolve {c : Config} {environment : Option Text}
    {config : ResolvedConfig} (h : c.resolve environment = .ok config) :
    config.timeout.lt (.ofNat 1) = false ↔
      ∀ d ∈ c.timeout, ∃ n, d.toMillis = .ok n ∧ n.lt (.ofNat 1) = false := by
  cases ht : c.timeout with
  | none =>
    simp only [Config.resolve, ht, bind_eq_ok_iff, pure_eq_ok_iff] at h
    obtain ⟨_, ⟨⟩, rfl⟩ := h
    have hdefault : ResolvedConfig.default.timeout.lt (.ofNat 1) = false := by decide
    exact iff_of_true hdefault nofun
  | some d =>
    simp only [Config.resolve, ht, bind_eq_ok_iff, pure_eq_ok_iff] at h
    obtain ⟨n, hn, rfl⟩ := h
    simp [hn]

theorem PoolLimit.ofNumber?_ofNat {n : Nat} (h : 1 ≤ n) : ofNumber? (.ofNat n) = some ⟨n, h⟩ := by
  have hn := Number.toPositive?_ofNat h
  unfold ofNumber?
  split <;> simp_all

structure RunSettings.Sound (s : RunSettings) : Prop where
  lineLength : 1 ≤ s.lineLength
  statementLength : 1 ≤ s.statementLength
  concurrency : 1 ≤ s.concurrency
  tabWidth : 1 ≤ s.indentation.tabWidth

namespace RunSettings

theorem sound_ofOptions {o : Options} {config : ResolvedConfig} (ho : o.Sound)
    (hconfig : config.Sound) : (ofOptions o config).Sound where
  lineLength := ho.lineLength.getD hconfig.lineLength
  statementLength := ho.statementLength.getD hconfig.statementLength
  concurrency := ho.concurrency.getD hconfig.concurrency
  tabWidth := ho.tabWidth.getD hconfig.tabWidth

def pipeline (s : RunSettings) : PipelineOptions :=
  ⟨⟨.ofNat s.lineLength, .ofNat s.statementLength, s.timeout⟩, s.indentation⟩

theorem Sound.resolve {s : RunSettings} (h : s.Sound) :
    s.formatOptions.resolve none = .ok (⟨s.concurrency, h.concurrency⟩, s.pipeline) := by
  have hlimit : PoolLimit.ofValue (.number (.ofNat s.concurrency)) =
      .ok ⟨s.concurrency, h.concurrency⟩ := by
    rw [PoolLimit.ofValue, PoolLimit.ofNumber?_ofNat h.concurrency]
  simp [FormatOptions.resolve, formatOptions, hlimit, Duration.toMillis, pipeline,
    Except.mapError, bind, Except.bind, pure, Except.pure]

/-- What was accepted can be run: settings are found, with positive counts, and the pool takes their
limit. Their timeout is a millisecond or more if the command line gives one, or else if the
configurations do not ask for less. What a timer makes of a timeout is not said. -/
theorem sound_of_accepted {user project : Json} {below above : Config} {arguments : List Text}
    {o : Options} (hbelow : Config.ofJson user = .ok below)
    (habove : Config.ofJson project = .ok above) (ho : Options.parse arguments = .ok o)
    (environment : Option Text) :
    ∃ config, (Config.merge below above).resolve environment = .ok config ∧
      (ofOptions o config).Sound ∧
      (∃ limit, (ofOptions o config).formatOptions.resolve none =
          .ok (limit, (ofOptions o config).pipeline) ∧
        limit.value = (ofOptions o config).concurrency) ∧
      ((ofOptions o config).timeout.lt (.ofNat 1) = false ↔
        o.timeout.isSome ∨ ∀ d ∈ above.timeout <|> below.timeout,
          ∃ n, d.toMillis = .ok n ∧ n.lt (.ofNat 1) = false) := by
  have hmerged := (Config.sound_ofJson hbelow).merge (Config.sound_ofJson habove)
  have hoptions := Options.sound_parse ho
  obtain ⟨config, hconfig⟩ := hmerged.exists_resolve environment
  have hsound := sound_ofOptions hoptions (hmerged.of_resolve hconfig)
  refine ⟨config, hconfig, hsound, ⟨_, hsound.resolve, rfl⟩, ?_⟩
  cases ht : o.timeout with
  | none =>
    have htimeout : (ofOptions o config).timeout = config.timeout := by simp [ofOptions, ht]
    rw [htimeout, Config.timeout_of_resolve hconfig]
    simp [Config.merge]
  | some n =>
    have htimeout : (ofOptions o config).timeout = n := by simp [ofOptions, ht]
    simp [htimeout, hoptions.timeout n ht]

/-- A project may leave no time at all, whatever its user asks for. -/
theorem sound_of_accepted_zero :
    let timeout (n : Nat) : Json := .object [(text "timeout", .number (.ofNat n))]
    let timed (n : Nat) : Config := { Config.empty with timeout := some (.millis (.ofNat n)) }
    Config.ofJson (timeout 2000) = .ok (timed 2000) ∧ Config.ofJson (timeout 0) = .ok (timed 0) ∧
      ∃ o c, Options.parse [text "--strict"] = .ok o ∧
        (Config.merge (timed 2000) (timed 0)).resolve none = .ok c ∧
        (ofOptions o c).Sound ∧ (ofOptions o c).timeout.lt (.ofNat 1) = true := by
  intro timeout timed
  have htimed (n : Nat) : Config.ofJson (timeout n) = .ok (timed n) := rfl
  have ho : Options.parse [text "--strict"] = .ok { Options.empty with strict := some true } := rfl
  obtain ⟨c, hc, hsound, -, htimeout⟩ := sound_of_accepted (htimed 2000) (htimed 0) ho none
  have hshort : ¬ (ofOptions { Options.empty with strict := some true } c).timeout.lt (.ofNat 1) =
      false := by
    rw [htimeout]
    rintro (h | h)
    · cases h
    · obtain ⟨_, ⟨⟩, h⟩ := h _ rfl
      revert h
      decide
  exact ⟨htimed 2000, htimed 0, _, c, ho, hc, hsound, by simpa using hshort⟩

end RunSettings

end Inlay
