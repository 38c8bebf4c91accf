import Inlay.Arguments
import Inlay.Proofs.Blocks

/-!
# Values attached to options

A command line is read argument by argument, so that one which is no path cuts it in two that can be
read one after the other (`read_append`). The value that is attached to an option which takes one is
checked and given to it, and stays unless the option is named again. An option that takes none is
switched on, and the value is lost (`parse_attached_iff`).
-/

namespace Inlay

open CodeUnit

theorem Text.cutAt?_eq_some_iff {separator : CodeUnit} {t front behind : Text} :
    cutAt? separator t = some (front, behind) ↔
      t = front ++ separator :: behind ∧ separator ∉ front := by
  constructor
  · intro h
    unfold cutAt? at h
    split at h
    · cases h
    · next u rest hrest =>
      have hu := eq_false_of_head?_dropWhile (by rw [hrest]; rfl : _ = some u)
      simp only [bne_eq_false_iff_eq] at hu
      have ht := List.takeWhile_append_dropWhile (p := (· != separator)) (l := t)
      rw [hrest, hu] at ht
      cases h
      exact ⟨ht.symm, not_mem_takeWhile separator t⟩
  · rintro ⟨rfl, hfront⟩
    have hne : ∀ u ∈ front, (u != separator) = true := fun u hu => by
      simpa using ne_of_mem_of_not_mem hu hfront
    have hend : ∀ u, (separator :: behind).head? = some u → (u != separator) = false := by simp
    simp [cutAt?, takeWhile_append_of_head hne hend, dropWhile_append_of_head hne hend]

-- ---------------------------------------------------------------------------
-- What options hold
-- ---------------------------------------------------------------------------

def ValueOption.Held : ValueOption → Type
  | .lineLength | .statementLength | .concurrency | .tabWidth => Nat
  | .timeout => Number
  | .engine => EngineName
  | .engineCommand => Text
  | .indentPolicy => IndentPolicy

def ValueOption.check : (v : ValueOption) → (option value : Text) → Except UsageError v.Held
  | .lineLength, option, value | .statementLength, option, value | .concurrency, option, value
  | .tabWidth, option, value => Options.readCount option value
  | .timeout, option, value => Options.readTimeout option value
  | .engine, _, value =>
    match EngineName.ofText? value with
    | some name => .ok name
    | none => .error (.badEngine value)
  | .engineCommand, _, value => .ok value
  | .indentPolicy, _, value =>
    match IndentPolicy.ofText? value with
    | some policy => .ok policy
    | none => .error (.badPolicy value)

/-- An argument names an option, with or without a value attached. -/
def Flag.NamedBy (f : Flag) (argument : Text) : Prop :=
  Flag.ofText? (Options.splitValue argument).1 = some f

namespace Options

def get (o : Options) : (v : ValueOption) → Option v.Held
  | .lineLength => o.lineLength
  | .statementLength => o.statementLength
  | .concurrency => o.concurrency
  | .tabWidth => o.tabWidth
  | .timeout => o.timeout
  | .engine => o.engine
  | .engineCommand => o.engineCommand
  | .indentPolicy => o.indentPolicy

def set (o : Options) : (v : ValueOption) → v.Held → Options
  | .lineLength, n => { o with lineLength := some n }
  | .statementLength, n => { o with statementLength := some n }
  | .concurrency, n => { o with concurrency := some n }
  | .tabWidth, n => { o with tabWidth := some n }
  | .timeout, n => { o with timeout := some n }
  | .engine, name => { o with engine := some name }
  | .engineCommand, command => { o with engineCommand := some command }
  | .indentPolicy, policy => { o with indentPolicy := some policy }

def isOn (o : Options) : Switch → Bool
  | .version => o.version
  | .help => o.help
  | .verbose => o.verbose
  | .debug => o.debug
  | .check => o.check
  | .write => o.write
  | .strict => o.strict = some true

/-- What arguments make of options. -/
inductive Reads : Options → List Text → Options → Prop
  | done {o : Options} : Reads o [] o
  | path {o o' : Options} {a : Text} {rest : List Text} :
      isPath a → Reads (o.addInputs [a]) rest o' → Reads o (a :: rest) o'
  | paths {o : Options} {rest : List Text} : Reads o (doubleDash :: rest) (o.addInputs rest)
  | switch {o o' : Options} {s : Switch} {a : Text} {rest : List Text} :
      (Flag.switch s).NamedBy a → Reads (o.switchOn s) rest o' → Reads o (a :: rest) o'
  | attached {o o' : Options} {v : ValueOption} {x : v.Held} {a option value : Text}
      {rest : List Text} : (Flag.value v).NamedBy a → splitValue a = (option, some value) →
      v.check option value = .ok x → Reads (o.set v x) rest o' → Reads o (a :: rest) o'
  | separate {o o' : Options} {v : ValueOption} {x : v.Held} {a option value : Text}
      {rest : List Text} : (Flag.value v).NamedBy a → splitValue a = (option, none) →
      isPath value → v.check option value = .ok x → Reads (o.set v x) rest o' →
      Reads o (a :: value :: rest) o'

/-- The arguments that may be options. -/
def beforeDashes (arguments : List Text) : List Text := arguments.takeWhile (· != doubleDash)

section

variable {o o' : Options} {s s' : Switch} {v w : ValueOption} {a option value : Text}
  {rest pre post arguments : List Text}

theorem get_set_self (o : Options) (x : v.Held) : (o.set v x).get v = some x := by
  cases v <;> rfl

theorem get_set_of_ne (o : Options) (x : v.Held) (h : w ≠ v) : (o.set v x).get w = o.get w := by
  cases v <;> cases w <;> first | rfl | contradiction

theorem isOn_set (o : Options) (x : v.Held) : (o.set v x).isOn s = o.isOn s := by
  cases v <;> cases s <;> rfl

theorem get_switchOn (o : Options) (s : Switch) : (o.switchOn s).get v = o.get v := by
  cases v <;> cases s <;> rfl

theorem isOn_switchOn_self (o : Options) (s : Switch) : (o.switchOn s).isOn s := by
  cases s <;> rfl

theorem isOn_switchOn (h : o.isOn s) (s' : Switch) : (o.switchOn s').isOn s := by
  cases s <;> cases s' <;> first | rfl | exact h

theorem get_addInputs (o : Options) (inputs : List Text) :
    (o.addInputs inputs).get v = o.get v := by
  cases v <;> rfl

theorem isOn_addInputs (o : Options) (inputs : List Text) :
    (o.addInputs inputs).isOn s = o.isOn s := by
  cases s <;> rfl

theorem assign_eq (v : ValueOption) (option value : Text) (o : Options) :
    o.assign v option value = v.check option value >>= fun x => .ok (o.set v x) := by
  cases v with
  | engine => rw [assign, ValueOption.check]; cases EngineName.ofText? value <;> rfl
  | indentPolicy => rw [assign, ValueOption.check]; cases IndentPolicy.ofText? value <;> rfl
  | _ => rfl

theorem assign_eq_ok_iff : o.assign v option value = .ok o' ↔
    ∃ x, v.check option value = .ok x ∧ o.set v x = o' := by
  simp [assign_eq, bind_eq_ok_iff]

-- ---------------------------------------------------------------------------
-- Names and values
-- ---------------------------------------------------------------------------

theorem splitValue_eq_some_iff : splitValue a = (option, some value) ↔
    doubleDash <+: a ∧ a = option ++ ofChar '=' :: value ∧ ofChar '=' ∉ option := by
  fun_cases splitValue a with
  | case1 hdash option' value' hcut =>
    simp only [Prod.mk.injEq, Option.some.injEq, ← Text.cutAt?_eq_some_iff, hcut]
    simp [List.isPrefixOf_iff_prefix.mp hdash]
  | case2 hdash hcut => simp [← Text.cutAt?_eq_some_iff, hcut]
  | case3 hdash => simp [← List.isPrefixOf_iff_prefix, hdash]

theorem splitValue_of_not_mem (h : ofChar '=' ∉ a) : splitValue a = (a, none) := by
  fun_cases splitValue a with
  | case1 _ option value hcut =>
    obtain ⟨rfl, -⟩ := Text.cutAt?_eq_some_iff.mp hcut
    simp at h
  | case2 | case3 => rfl

theorem prefix_splitValue (a : Text) : (splitValue a).1 <+: a := by
  fun_cases splitValue a with
  | case1 _ option value hcut => exact ⟨_, (Text.cutAt?_eq_some_iff.mp hcut).1.symm⟩
  | case2 | case3 => exact List.prefix_rfl

theorem not_isPath_of_prefix (h : doubleDash <+: a) : isPath a = false := by
  have hlong : a ≠ dash := by
    rintro rfl
    exact absurd h (by decide)
  have hdash : dash <+: a := List.IsPrefix.trans (by decide) h
  simpa [isPath, hlong] using hdash

theorem not_isPath_of_namedBy {f : Flag} (h : f.NamedBy a) : isPath a = false ∧ a ≠ doubleDash := by
  have hspelled : ∀ p ∈ Flag.spellings, dash <+: p.1 := by decide
  obtain ⟨before, after, hspellings, -⟩ := List.lookup_eq_some_iff.mp h
  have hdash : dash <+: (splitValue a).1 := hspelled ((splitValue a).1, f) (by simp [hspellings])
  constructor
  · have hlong : a ≠ dash := by
      rintro rfl
      cases h
    simpa [isPath, hlong] using hdash.trans (prefix_splitValue a)
  · rintro rfl
    cases h

theorem ne_doubleDash_of_isPath (h : isPath a) : a ≠ doubleDash := by
  rintro rfl
  cases h

-- ---------------------------------------------------------------------------
-- Reading argument by argument
-- ---------------------------------------------------------------------------

theorem read_switch (h : (Flag.switch s).NamedBy a) :
    o.read (a :: rest) = (o.switchOn s).read rest := by
  obtain ⟨hpath, hne⟩ := not_isPath_of_namedBy h
  rw [Flag.NamedBy] at h
  simp [read, hpath, hne, h]

theorem read_attached (h : (Flag.value v).NamedBy a)
    (hsplit : splitValue a = (option, some value)) :
    o.read (a :: rest) = v.check option value >>= fun x => (o.set v x).read rest := by
  obtain ⟨hpath, hne⟩ := not_isPath_of_namedBy h
  rw [Flag.NamedBy, hsplit] at h
  cases hcheck : v.check option value <;>
    simp [read, assign_eq, hpath, hne, hsplit, h, hcheck, bind, Except.bind]

theorem read_separate (h : (Flag.value v).NamedBy a) (hsplit : splitValue a = (option, none))
    (hvalue : isPath value) :
    o.read (a :: value :: rest) = v.check option value >>= fun x => (o.set v x).read rest := by
  obtain ⟨hpath, hne⟩ := not_isPath_of_namedBy h
  rw [Flag.NamedBy, hsplit] at h
  cases hcheck : v.check option value <;>
    simp [read, assign_eq, hpath, hne, hsplit, h, hvalue, hcheck, bind, Except.bind]

theorem read_eq_ok_iff : o.read arguments = .ok o' ↔ Reads o arguments o' := by
  constructor
  · intro h
    fun_induction read o arguments with
    | case1 => cases h; exact .done
    | case2 _ _ _ hpath ih => exact .path hpath (ih h)
    | case3 => cases h; exact .paths
    | case5 _ _ _ _ _ _ _ hsplit s hflag ih =>
      exact .switch (by simpa [Flag.NamedBy, hsplit] using hflag) (ih h)
    | case6 _ _ _ _ _ option v hflag value _ hassign hsplit ih =>
      obtain ⟨x, hcheck, rfl⟩ := assign_eq_ok_iff.mp hassign
      exact .attached (by simpa [Flag.NamedBy, hsplit] using hflag) hsplit hcheck (ih h)
    | case9 _ _ _ _ option v hflag value _ hvalue _ hassign hsplit ih =>
      obtain ⟨x, hcheck, rfl⟩ := assign_eq_ok_iff.mp hassign
      exact .separate (by simpa [Flag.NamedBy, hsplit] using hflag) hsplit hvalue hcheck (ih h)
    | case4 | case7 | case8 | case10 | case11 => cases h
  · intro h
    induction h with
    | done => rfl
    | path hpath _ ih => simpa [read, hpath] using ih
    | paths => rfl
    | switch hflag _ ih => rwa [read_switch hflag]
    | attached hflag hsplit hcheck _ ih => rw [read_attached hflag hsplit, hcheck]; exact ih
    | separate hflag hsplit hvalue hcheck _ ih =>
      rw [read_separate hflag hsplit hvalue, hcheck]; exact ih

theorem read_append (hpre : doubleDash ∉ pre)
    (hpost : ∀ a, post.head? = some a → isPath a = false) :
    o.read (pre ++ post) = o.read pre >>= fun o => o.read post := by
  fun_induction read o pre with
  | case1 => rfl
  | case3 => exact absurd List.mem_cons_self hpre
  | case8 => cases post <;> simp_all [read, bind, Except.bind]
  | case2 | case5 | case6 | case9 => simp_all [read]
  | case4 | case7 | case10 | case11 => simp_all [read, bind, Except.bind]

theorem beforeDashes_cons (h : a ≠ doubleDash) :
    beforeDashes (a :: rest) = a :: beforeDashes rest := by
  simp [beforeDashes, h]

theorem Reads.get_eq (h : Reads o arguments o')
    (hnot : ∀ a ∈ beforeDashes arguments, ¬ (Flag.value v).NamedBy a) : o'.get v = o.get v := by
  induction h with
  | done => rfl
  | path hpath _ ih =>
    simp only [beforeDashes_cons (ne_doubleDash_of_isPath hpath), List.forall_mem_cons] at hnot
    rw [ih hnot.2, get_addInputs]
  | paths => exact get_addInputs ..
  | switch hflag _ ih =>
    simp only [beforeDashes_cons (not_isPath_of_namedBy hflag).2, List.forall_mem_cons] at hnot
    rw [ih hnot.2, get_switchOn]
  | attached hflag _ _ _ ih =>
    simp only [beforeDashes_cons (not_isPath_of_namedBy hflag).2, List.forall_mem_cons] at hnot
    rw [ih hnot.2, get_set_of_ne _ _ (by rintro rfl; exact hnot.1 hflag)]
  | separate hflag _ hvalue _ _ ih =>
    simp only [beforeDashes_cons (not_isPath_of_namedBy hflag).2,
      beforeDashes_cons (ne_doubleDash_of_isPath hvalue), List.forall_mem_cons] at hnot
    rw [ih hnot.2.2, get_set_of_ne _ _ (by rintro rfl; exact hnot.1 hflag)]

theorem Reads.isOn (h : Reads o arguments o') (hs : o.isOn s) : o'.isOn s := by
  induction h with
  | done => exact hs
  | path _ _ ih => exact ih (by rwa [isOn_addInputs])
  | paths => rwa [isOn_addInputs]
  | switch _ _ ih => exact ih (isOn_switchOn hs _)
  | attached _ _ _ _ ih => exact ih (by rwa [isOn_set])
  | separate _ _ _ _ _ ih => exact ih (by rwa [isOn_set])

theorem validate_eq_ok (h : o.validate = .ok o') : o = o' := by
  unfold validate at h
  split_ifs at h
  cases h
  rfl

-- ---------------------------------------------------------------------------
-- Command lines
-- ---------------------------------------------------------------------------

theorem parse_eq_ok_iff :
    parse arguments = .ok o ↔ read .empty arguments = .ok o ∧ o.validate = .ok o := by
  simp only [parse, bind_eq_ok_iff]
  constructor
  · rintro ⟨o', hread, hvalid⟩
    obtain rfl := validate_eq_ok hvalid
    exact ⟨hread, hvalid⟩
  · exact fun ⟨hread, hvalid⟩ => ⟨o, hread, hvalid⟩

/-- A value is checked and an option holds it, unless later arguments name the option again. -/
def Assigns (o : Options) (name value : Text) (later : List Text) : Prop :=
  ∃ v x, Flag.ofText? name = some (.value v) ∧ v.check name value = .ok x ∧
    ((∀ a ∈ beforeDashes later, ¬ (Flag.value v).NamedBy a) → o.get v = some x)

/-- A value that is attached to an option is assigned to it exactly if it is no switch. A switch is
turned on, as if no value were attached. -/
theorem parse_attached_iff {name : Text} (hpre : doubleDash ∉ pre) (hlong : doubleDash <+: name)
    (hname : ofChar '=' ∉ name) :
    (∀ o, parse (pre ++ (name ++ ofChar '=' :: value) :: post) = .ok o →
      (o.Assigns name value post ↔ ∀ s, Flag.ofText? name ≠ some (.switch s))) ∧
    ∀ s, Flag.ofText? name = some (.switch s) →
      parse (pre ++ (name ++ ofChar '=' :: value) :: post) = parse (pre ++ name :: post) ∧
      ∀ o, parse (pre ++ (name ++ ofChar '=' :: value) :: post) = .ok o → o.isOn s := by
  have hfront : doubleDash <+: name ++ ofChar '=' :: value := hlong.trans (List.prefix_append ..)
  have hsplit := splitValue_eq_some_iff.mpr ⟨hfront, rfl, hname⟩
  have hpath : isPath (name ++ ofChar '=' :: value) = false := not_isPath_of_prefix hfront
  have hread {a : Text} (ha : isPath a = false) :
      read .empty (pre ++ a :: post) = read .empty pre >>= fun o => o.read (a :: post) :=
    read_append hpre (by simpa using ha)
  constructor
  · intro o h
    obtain ⟨o₁, -, h⟩ := bind_eq_ok_iff.mp (hread hpath ▸ (parse_eq_ok_iff.mp h).1)
    generalize hargument : name ++ ofChar '=' :: value = a at *
    cases read_eq_ok_iff.mp h with
    | path hpath' => simp [hpath] at hpath'
    | paths => cases hsplit
    | switch hflag =>
      rw [Flag.NamedBy, hsplit] at hflag
      simp [Assigns, hflag]
    | attached hflag hsplit' hcheck hrest =>
      obtain ⟨rfl, rfl⟩ : _ ∧ _ := by simpa [hsplit] using hsplit'
      rw [Flag.NamedBy, hsplit] at hflag
      have hget := fun hnot => (hrest.get_eq hnot).trans (get_set_self _ _)
      simpa [hflag] using ⟨_, _, hflag, hcheck, hget⟩
    | separate _ hsplit' => simp [hsplit] at hsplit'
  · intro s hs
    have hattached : (Flag.switch s).NamedBy (name ++ ofChar '=' :: value) := by
      rwa [Flag.NamedBy, hsplit]
    have hbare : (Flag.switch s).NamedBy name := by
      rwa [Flag.NamedBy, splitValue_of_not_mem hname]
    constructor
    · simp only [parse, hread hpath, hread (not_isPath_of_namedBy hbare).1,
        read_switch hattached, read_switch hbare]
    · intro o h
      obtain ⟨o₁, -, h⟩ := bind_eq_ok_iff.mp (hread hpath ▸ (parse_eq_ok_iff.mp h).1)
      rw [read_switch hattached] at h
      exact (read_eq_ok_iff.mp h).isOn (isOn_switchOn_self _ _)

/-- Files are to be written because it was said that they are not. -/
theorem parse_attached_iff_write :
    let arguments := [text "--write=false", text "a.rpy"]
    let o := { Options.empty with write := true, inputs := [text "a.rpy"] }
    parse arguments = .ok o ∧ o.isOn .write ∧
      ¬ o.Assigns (text "--write") (text "false") [text "a.rpy"] ∧
      parse arguments = parse [text "--write", text "a.rpy"] := by
  intro arguments o
  have hparse : parse arguments = .ok o := rfl
  have hflag : Flag.ofText? (text "--write") = some (.switch .write) := rfl
  have hattached : text "--write" ++ ofChar '=' :: text "false" = text "--write=false" := rfl
  obtain ⟨hassigns, hswitch⟩ := @parse_attached_iff (text "false") [] [text "a.rpy"]
    (text "--write") List.not_mem_nil (by decide) (by decide)
  obtain ⟨hsame, hon⟩ := hswitch .write hflag
  rw [List.nil_append, hattached] at hassigns hsame hon
  refine ⟨hparse, hon o hparse, fun h => ?_, hsame⟩
  exact (hassigns o hparse).mp h .write hflag

end

end Options

end Inlay
