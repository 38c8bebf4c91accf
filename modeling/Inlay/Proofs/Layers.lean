import Inlay.Proofs.Acceptance

/-!
# Configurations over one another

A configuration that is written is read back as it was exactly if it is `Sound`, which those that
were read are, also one laid over another (`ofJson_toJson_iff`). So what reading accepts is closed
under merging, and with the empty configuration it is a monoid. For the value of a key, wherever it
is nested, the configuration above counts if it sets the key (`value?_merge`); only the patterns to
exclude are those of both.
-/

namespace Inlay

theorem Json.Members.get?_append (key : Text) (a b : Json.Members) :
    get? key (a ++ b) = (get? key a).or (get? key b) := by
  induction a with
  | nil => rfl
  | cons m a ih =>
    rw [List.cons_append, get?, get?, ih]
    split <;> rfl

theorem EngineName.ofText?_text (name : EngineName) : ofText? name.text = some name := by
  cases name <;> decide +kernel

theorem IndentPolicy.ofText?_text (policy : IndentPolicy) : ofText? policy.text = some policy := by
  cases policy <;> decide +kernel

namespace ConfigKey

def all : List ConfigKey :=
  [lineLength, statementLength, concurrency, timeout, strict, exclude, engine, engineName,
    engineCommand, engineArgs, indentation, indentationPolicy, tabWidth]

theorem text_inj {key key' : ConfigKey} : key.text = key'.text ↔ key = key' := by
  have hfind (k : ConfigKey) : all.find? (·.text = k.text) = some k := by
    cases k <;> decide +kernel
  constructor
  · intro h
    exact Option.some.inj ((hfind key).symm.trans (h ▸ hfind key'))
  · rintro rfl
    rfl

def outer? : ConfigKey → Option ConfigKey
  | engineName | engineCommand | engineArgs => some engine
  | indentationPolicy | tabWidth => some indentation
  | _ => none

/-- What the key stands for is put together from both configurations that set it. -/
def isCombined : ConfigKey → Bool
  | exclude | engine | indentation => true
  | _ => false

end ConfigKey

namespace Config

/-- The value of a key where a configuration is written. -/
def value? (c : Config) (key : ConfigKey) : Option Json :=
  match key.outer? with
  | none => Json.get? key.text c.toJson
  | some outer => (Json.get? outer.text c.toJson).bind (Json.get? key.text)

section

variable {α : Type} {key : ConfigKey} {members : Json.Members} {value : Option α}

theorem get?_member (key' : ConfigKey) (write : α → Json) (value : Option α) :
    Json.Members.get? key.text (member key' write value) =
      if key' = key then value.map write else none := by
  cases value with
  | none => simp [member, Json.Members.get?]
  | some a => simp [member, Json.Members.get?, ConfigKey.text_inj]

-- ---------------------------------------------------------------------------
-- Reading what was written
-- ---------------------------------------------------------------------------

theorem readCount_writeCount {n : Nat} (h : 1 ≤ n) : readCount (writeCount n) = some n :=
  Number.toPositive?_ofNat h

theorem readTexts_writeTexts (ts : List Text) : readTexts (writeTexts ts) = some ts := by
  change (ts.map Json.string).mapM readText = some ts
  induction ts with
  | nil => rfl
  | cons t ts ih => simp [readText, ih]

theorem readDuration_writeDuration (d : Duration) : readDuration (writeDuration d) = some d := by
  cases d <;> rfl

theorem readKey_of_get? {read : Json → Option α} (write : α → Json)
    (hget : Json.Members.get? key.text members = value.map write)
    (hread : ∀ a ∈ value, read (write a) = some a) : readKey read members key = .ok value := by
  cases value with
  | none => simp [readKey, hget]
  | some a => simp [readKey, hget, hread a rfl]

theorem readNested_of_get? {read : Json.Members → Except ConfigError α} {write : α → Json}
    (hget : Json.Members.get? key.text members = value.map write)
    (hread : ∀ a ∈ value, ∃ written, write a = .object written ∧ read written = .ok a) :
    ∃ found, readKey readMembers members key = .ok found ∧ found.mapM read = .ok value := by
  cases value with
  | none => exact ⟨none, by simp [readKey, hget], rfl⟩
  | some a =>
    obtain ⟨written, hwrite, hread⟩ := hread a rfl
    refine ⟨some written, by simp [readKey, hget, hwrite, readMembers], ?_⟩
    simp [hread, Functor.map, Except.map]

end

theorem get?_writeEngine (e : EngineConfig) (key : ConfigKey) :
    Json.get? key.text (writeEngine e) =
      match key with
      | .engineName => e.name.map fun n => .string n.text
      | .engineCommand => e.command.map .string
      | .engineArgs => e.args.map writeTexts
      | _ => none := by
  cases key <;> simp [writeEngine, Json.get?, Json.Members.get?_append, get?_member]

theorem get?_writeIndentation (i : IndentationConfig) (key : ConfigKey) :
    Json.get? key.text (writeIndentation i) =
      match key with
      | .indentationPolicy => i.policy.map fun p => .string p.text
      | .tabWidth => i.tabWidth.map writeCount
      | _ => none := by
  cases key <;> simp [writeIndentation, Json.get?, Json.Members.get?_append, get?_member]

theorem readEngine_writeEngine (e : EngineConfig) :
    ∃ written, writeEngine e = .object written ∧ readEngine written = .ok e := by
  refine ⟨_, rfl, ?_⟩
  have hget (key : ConfigKey) := get?_writeEngine e key
  have hname : readKey (fun v => (readText v).bind EngineName.ofText?) _ _ = .ok e.name :=
    readKey_of_get? (fun n : EngineName => .string n.text) (hget .engineName)
      fun n _ => EngineName.ofText?_text n
  have hcommand := readKey_of_get? .string (hget .engineCommand) fun _ _ => (rfl : readText _ = _)
  have hargs := readKey_of_get? writeTexts (hget .engineArgs) fun ts _ => readTexts_writeTexts ts
  simp only [readEngine, bind_eq_ok_iff, pure_eq_ok_iff]
  exact ⟨_, hname, _, hcommand, _, hargs, rfl⟩

theorem readIndentation_writeIndentation {i : IndentationConfig} (h : Positive i.tabWidth) :
    ∃ written, writeIndentation i = .object written ∧ readIndentation written = .ok i := by
  refine ⟨_, rfl, ?_⟩
  have hget (key : ConfigKey) := get?_writeIndentation i key
  have hpolicy : readKey (fun v => (readText v).bind IndentPolicy.ofText?) _ _ = .ok i.policy :=
    readKey_of_get? (fun p : IndentPolicy => .string p.text) (hget .indentationPolicy)
      fun p _ => IndentPolicy.ofText?_text p
  have hwidth := readKey_of_get? writeCount (hget .tabWidth)
    fun n hn => readCount_writeCount (h n hn)
  simp only [readIndentation, bind_eq_ok_iff, pure_eq_ok_iff]
  exact ⟨_, hpolicy, _, hwidth, rfl⟩

theorem get?_toJson (c : Config) (key : ConfigKey) : Json.get? key.text c.toJson =
    match key with
    | .lineLength => c.lineLength.map writeCount
    | .statementLength => c.statementLength.map writeCount
    | .concurrency => c.concurrency.map writeCount
    | .timeout => c.timeout.map writeDuration
    | .strict => c.strict.map .bool
    | .exclude => c.exclude.map writeTexts
    | .engine => c.engine.map writeEngine
    | .indentation => c.indentation.map writeIndentation
    | _ => none := by
  cases key <;> simp [toJson, Json.get?, Json.Members.get?_append, get?_member]

theorem checkDuration_of_sound {c : Config} (h : c.Sound) : checkDuration c.timeout = .ok () := by
  cases htimeout : c.timeout with
  | none => rfl
  | some d =>
    obtain ⟨n, hn⟩ := h.timeout d htimeout
    simp [checkDuration, hn, Except.mapError, Except.map]

theorem ofJson_toJson_iff {c : Config} : ofJson c.toJson = .ok c ↔ c.Sound := by
  refine ⟨sound_ofJson, fun h => ?_⟩
  have hget (key : ConfigKey) := get?_toJson c key
  have hcount {key : ConfigKey} {count : Option Nat} (hpositive : Positive count)
      (hget : Json.get? key.text c.toJson = count.map writeCount) :=
    readKey_of_get? writeCount hget fun n hn => readCount_writeCount (hpositive n hn)
  have htimeout := readKey_of_get? writeDuration (hget .timeout)
    fun d _ => readDuration_writeDuration d
  have hstrict := readKey_of_get? .bool (hget .strict) fun _ _ => (rfl : readBool _ = _)
  have hexclude := readKey_of_get? writeTexts (hget .exclude) fun ts _ => readTexts_writeTexts ts
  obtain ⟨engine, hengine, hengine'⟩ := readNested_of_get? (hget .engine)
    fun e _ => readEngine_writeEngine e
  obtain ⟨indentation, hindentation, hindentation'⟩ :=
    readNested_of_get? (hget .indentation)
      fun i hi => readIndentation_writeIndentation (h.tabWidth i hi)
  change ofMembers _ = .ok c
  simp only [ofMembers, bind_eq_ok_iff, pure_eq_ok_iff]
  exact ⟨_, hcount h.lineLength (hget _), _, hcount h.statementLength (hget _), _,
    hcount h.concurrency (hget _), _, htimeout, _, checkDuration_of_sound h, _, hstrict, _,
    hexclude, _, hengine, _, hengine', _, hindentation, _, hindentation', rfl⟩

-- ---------------------------------------------------------------------------
-- Merging
-- ---------------------------------------------------------------------------

section

variable {α : Type} {combine : α → α → α}

theorem both_none_left (x : Option α) : both combine none x = x := by cases x <;> rfl

theorem both_none_right (x : Option α) : both combine x none = x := by cases x <;> rfl

theorem both_assoc (h : ∀ a b c, combine (combine a b) c = combine a (combine b c))
    (x y z : Option α) :
    both combine (both combine x y) z = both combine x (both combine y z) := by
  cases x <;> cases y <;> cases z <;> simp [both, h]

theorem bind_both {β : Type} {part : α → Option β}
    (h : ∀ a b, part (combine a b) = (part b).or (part a)) (x y : Option α) :
    (both combine x y).bind part = (y.bind part).or (x.bind part) := by
  cases x <;> cases y <;> simp [both, h]

theorem isSome_both (x y : Option α) : (both combine x y).isSome = (x.isSome || y.isSome) := by
  cases x <;> cases y <;> rfl

end

variable {a b : Config}

theorem mergeEngine_assoc (a b c : EngineConfig) :
    mergeEngine (mergeEngine a b) c = mergeEngine a (mergeEngine b c) := by
  simp [mergeEngine, Option.or_assoc]

theorem mergeIndentation_assoc (a b c : IndentationConfig) :
    mergeIndentation (mergeIndentation a b) c = mergeIndentation a (mergeIndentation b c) := by
  simp [mergeIndentation, Option.or_assoc]

theorem merge_assoc (a b c : Config) : merge (merge a b) c = merge a (merge b c) := by
  simp [merge, Option.or_assoc, both_assoc List.append_assoc, both_assoc mergeEngine_assoc,
    both_assoc mergeIndentation_assoc]

theorem empty_merge (a : Config) : merge empty a = a := by
  simp [merge, empty, both_none_left]

theorem merge_empty (a : Config) : merge a empty = a := by
  simp [merge, empty, both_none_right]

theorem get?_mergeEngine (key : ConfigKey) (a b : EngineConfig) :
    Json.get? key.text (writeEngine (mergeEngine a b)) =
      (Json.get? key.text (writeEngine b)).or (Json.get? key.text (writeEngine a)) := by
  simp only [get?_writeEngine, mergeEngine]
  cases key <;> simp [Option.map_or]

theorem get?_mergeIndentation (key : ConfigKey) (a b : IndentationConfig) :
    Json.get? key.text (writeIndentation (mergeIndentation a b)) =
      (Json.get? key.text (writeIndentation b)).or (Json.get? key.text (writeIndentation a)) := by
  simp only [get?_writeIndentation, mergeIndentation]
  cases key <;> simp [Option.map_or]

/-- The configuration above counts where it sets a key, and the one below where it does not. -/
theorem value?_merge {key : ConfigKey} (h : key.isCombined = false) :
    (merge a b).value? key = (b.value? key).or (a.value? key) := by
  cases key with
  | exclude | engine | indentation => cases h
  | engineName | engineCommand | engineArgs =>
    simpa [value?, ConfigKey.outer?, get?_toJson, merge, Option.bind_map] using
      bind_both (get?_mergeEngine _) a.engine b.engine
  | indentationPolicy | tabWidth =>
    simpa [value?, ConfigKey.outer?, get?_toJson, merge, Option.bind_map] using
      bind_both (get?_mergeIndentation _) a.indentation b.indentation
  | _ => simp [value?, ConfigKey.outer?, get?_toJson, merge, Option.map_or]

theorem isSome_value?_merge (key : ConfigKey) :
    ((merge a b).value? key).isSome = ((a.value? key).isSome || (b.value? key).isSome) := by
  cases h : key.isCombined with
  | false => rw [value?_merge h, Option.isSome_or, Bool.or_comm]
  | true =>
    cases key with
    | exclude | engine | indentation =>
      simp [value?, ConfigKey.outer?, get?_toJson, merge, isSome_both]
    | _ => cases h

theorem getD_both_append (x y : Option (List Text)) :
    (both (· ++ ·) x y).getD [] = x.getD [] ++ y.getD [] := by
  cases x <;> cases y <;> simp [both]

/-- Configurations that were read form a monoid in which what is above counts, and reading accepts
all of it. -/
theorem merge_layers (ha : ∃ value, ofJson value = .ok a) (hb : ∃ value, ofJson value = .ok b)
    (c : Config) :
    merge (merge a b) c = merge a (merge b c) ∧ merge empty a = a ∧ merge a empty = a ∧
      (∀ key : ConfigKey, key.isCombined = false →
        (merge a b).value? key = (b.value? key).or (a.value? key)) ∧
      (∀ key : ConfigKey,
        ((merge a b).value? key).isSome = ((a.value? key).isSome || (b.value? key).isSome)) ∧
      (merge a b).exclude.getD [] = a.exclude.getD [] ++ b.exclude.getD [] ∧
      ofJson (merge a b).toJson = .ok (merge a b) := by
  obtain ⟨_, ha⟩ := ha
  obtain ⟨_, hb⟩ := hb
  exact ⟨merge_assoc a b c, empty_merge a, merge_empty a, fun _ => value?_merge,
    isSome_value?_merge, getD_both_append a.exclude b.exclude,
    ofJson_toJson_iff.mpr ((sound_ofJson ha).merge (sound_ofJson hb))⟩

theorem merge_layers_nested :
    let below : Json := .object [(text "timeout", .string (text "5s")),
      (text "engine", .object [(text "name", .string (text "ruff")), (text "args", .array [])]),
      (text "exclude", .array [.string (text "tl/**")])]
    let above : Json := .object [
      (text "engine", .object [(text "name", .string (text "black"))]),
      (text "indentation", .object []), (text "exclude", .array [])]
    let a := { empty with
      timeout := some (.written (text "5s")), engine := some ⟨some .ruff, none, some []⟩
      exclude := some [text "tl/**"] }
    let b := { empty with
      engine := some ⟨some .black, none, none⟩, indentation := some ⟨none, none⟩
      exclude := some [] }
    ofJson below = .ok a ∧ ofJson above = .ok b ∧
      (merge a b).value? .engineName = some (.string (text "black")) ∧
      (merge a b).exclude.getD [] = [text "tl/**"] ∧
      ofJson (merge a b).toJson = .ok (merge a b) := by
  intro below above a b
  have ha : ofJson below = .ok a := by decide +kernel
  have hb : ofJson above = .ok b := by decide +kernel
  obtain ⟨-, -, -, hvalue, -, hexclude, hread⟩ := merge_layers ⟨below, ha⟩ ⟨above, hb⟩ empty
  exact ⟨ha, hb, hvalue .engineName rfl, hexclude, hread⟩

end Config

end Inlay
