import Inlay.Proofs.Attachments

/-!
# Values behind their options, and what is left

A long option takes a value that is attached to it or stands behind it, and it makes no difference
which (`read_attached`, `read_separate`): both are checked alike, set the same option and leave the
same arguments. Which arguments of an accepted command line are its inputs can be told without
reading it: an argument is a value exactly if the one before it is an option that waits for one, as
no value looks like an option (`Reads.inputs`).
-/

namespace Inlay.Options

open CodeUnit

/-- An argument names an option whose value is the next argument. -/
def awaitsValue (a : Text) : Bool :=
  (splitValue a).2.isNone &&
    match Flag.ofText? (splitValue a).1 with
    | some (.value _) => true
    | _ => false

/-- The paths among arguments that are not the value of an option right before them. -/
def freePaths (previous : Option Text) (arguments : List Text) : List Text :=
  (((previous :: arguments.map some).zip arguments).filter fun (p, a) =>
    isPath a && !p.any awaitsValue).map (·.2)

/-- The arguments that are paths in any case. -/
def behindDashes (arguments : List Text) : List Text :=
  (arguments.dropWhile (· != doubleDash)).tail

section

variable {o o' : Options} {v : ValueOption} {a option value : Text} {previous : Option Text}
  {rest pre post arguments : List Text}

-- ---------------------------------------------------------------------------
-- Inputs
-- ---------------------------------------------------------------------------

theorem awaitsValue_iff :
    awaitsValue a ↔ (splitValue a).2 = none ∧ ∃ v, (Flag.value v).NamedBy a := by
  unfold awaitsValue Flag.NamedBy
  split <;> simp_all

theorem awaitsValue_of_isPath (h : isPath a) : awaitsValue a = false := by
  rw [Bool.eq_false_iff]
  intro hawaits
  obtain ⟨-, v, hflag⟩ := awaitsValue_iff.mp hawaits
  simp [(not_isPath_of_namedBy hflag).1] at h

theorem inputs_set (o : Options) (x : v.Held) : (o.set v x).inputs = o.inputs := by
  cases v <;> rfl

theorem inputs_switchOn (o : Options) (s : Switch) : (o.switchOn s).inputs = o.inputs := by
  cases s <;> rfl

theorem freePaths_cons : freePaths previous (a :: rest) =
    (if isPath a && !previous.any awaitsValue then [a] else []) ++ freePaths (some a) rest := by
  simp only [freePaths, List.map_cons, List.zip_cons_cons, List.filter_cons]
  split <;> rfl

theorem behindDashes_cons (h : a ≠ doubleDash) : behindDashes (a :: rest) = behindDashes rest := by
  simp [behindDashes, h]

theorem paths_cons (h : a ≠ doubleDash) :
    freePaths previous (beforeDashes (a :: rest)) ++ behindDashes (a :: rest) =
      (if isPath a && !previous.any awaitsValue then [a] else []) ++
        (freePaths (some a) (beforeDashes rest) ++ behindDashes rest) := by
  rw [beforeDashes_cons h, behindDashes_cons h, freePaths_cons, List.append_assoc]

/-- What is read adds to the inputs the paths that are no values and all that is behind the
dashes. -/
theorem Reads.inputs (h : Reads o arguments o') (previous : Option Text)
    (hprevious : previous.any awaitsValue = false) :
    o'.inputs = o.inputs ++ (freePaths previous (beforeDashes arguments) ++
      behindDashes arguments) := by
  induction h generalizing previous with
  | done => simp [freePaths, beforeDashes, behindDashes]
  | path hpath _ ih =>
    rw [ih (some _) (awaitsValue_of_isPath hpath), paths_cons (ne_doubleDash_of_isPath hpath)]
    simp [addInputs, hpath, hprevious]
  | paths => simp [addInputs, freePaths, beforeDashes, behindDashes]
  | @switch _ _ _ a _ hflag _ ih =>
    obtain ⟨hpath, hne⟩ := not_isPath_of_namedBy hflag
    have hawaits : awaitsValue a = false := by
      rw [Flag.NamedBy] at hflag
      simp [awaitsValue, hflag]
    rw [ih (some a) hawaits, paths_cons hne, inputs_switchOn]
    simp [hpath]
  | @attached _ _ _ _ a _ _ _ hflag hsplit _ _ ih =>
    obtain ⟨hpath, hne⟩ := not_isPath_of_namedBy hflag
    have hawaits : awaitsValue a = false := by simp [awaitsValue, hsplit]
    rw [ih (some a) hawaits, paths_cons hne, inputs_set]
    simp [hpath]
  | @separate _ _ v _ a _ value _ hflag hsplit hvalue _ _ ih =>
    -- the value is a path, but the option before it waits for it
    obtain ⟨hpath, hne⟩ := not_isPath_of_namedBy hflag
    have hawaits : awaitsValue a := awaitsValue_iff.mpr ⟨by rw [hsplit], v, hflag⟩
    rw [ih (some value) (awaitsValue_of_isPath hvalue), paths_cons hne,
      paths_cons (ne_doubleDash_of_isPath hvalue), inputs_set]
    simp [hpath, hawaits]

-- ---------------------------------------------------------------------------
-- Command lines
-- ---------------------------------------------------------------------------

theorem equals_not_mem_of_ofText? {f : Flag} (h : Flag.ofText? option = some f) :
    ofChar '=' ∉ option := by
  have hspelled : ∀ p ∈ Flag.spellings, ofChar '=' ∉ p.1 := by decide
  obtain ⟨before, after, hspellings, -⟩ := List.lookup_eq_some_iff.mp h
  exact hspelled (option, f) (by simp [hspellings])

/-- A value is read alike behind a long option and attached to it, and no input is lost or made out
of one. -/
theorem parse_spellings (hpre : doubleDash ∉ pre) (hlong : doubleDash <+: option)
    (hoption : Flag.ofText? option = some (.value v)) (hvalue : isPath value) :
    parse (pre ++ option :: value :: post) =
        parse (pre ++ (option ++ ofChar '=' :: value) :: post) ∧
      (parse (pre ++ option :: value :: post) = do
        let o ← read .empty pre
        let x ← v.check option value
        validate (← (o.set v x).read post)) ∧
      ∀ arguments o, parse arguments = .ok o →
        o.inputs = freePaths none (beforeDashes arguments) ++ behindDashes arguments := by
  have hequals := equals_not_mem_of_ofText? hoption
  have hbare := splitValue_of_not_mem hequals
  have hattached := splitValue_eq_some_iff.mpr
    ⟨hlong.trans (List.prefix_append option (ofChar '=' :: value)), rfl, hequals⟩
  have hread {a : Text} {rest : List Text} (h : (Flag.value v).NamedBy a) :
      read .empty (pre ++ a :: rest) = read .empty pre >>= fun o => o.read (a :: rest) :=
    read_append hpre (by simpa using (not_isPath_of_namedBy h).1)
  have hnamed : (Flag.value v).NamedBy option := by rwa [Flag.NamedBy, hbare]
  have hnamed' : (Flag.value v).NamedBy (option ++ ofChar '=' :: value) := by
    rwa [Flag.NamedBy, hattached]
  refine ⟨?_, ?_, ?_⟩
  · simp only [parse, hread hnamed, hread hnamed', read_separate hnamed hbare hvalue,
      read_attached hnamed' hattached]
  · simp only [parse, hread hnamed, read_separate hnamed hbare hvalue, bind_assoc]
  · intro arguments o h
    have hreads := read_eq_ok_iff.mp (parse_eq_ok_iff.mp h).1
    exact hreads.inputs none rfl

theorem parse_spellings_command :
    let separate := [text "a.rpy", text "--engine-command", text "b=c", text "--", text "-w"]
    let attached := [text "a.rpy", text "--engine-command=b=c", text "--", text "-w"]
    let o := { Options.empty with
      inputs := [text "a.rpy", text "-w"], engineCommand := some (text "b=c") }
    parse separate = .ok o ∧ parse attached = .ok o ∧
      o.inputs = freePaths none (beforeDashes separate) ++ behindDashes separate := by
  intro separate attached o
  obtain ⟨hsame, hseparate, hinputs⟩ := @parse_spellings .engineCommand (text "--engine-command")
    (text "b=c") [text "a.rpy"] [text "--", text "-w"] (by decide) (by decide) rfl rfl
  have hparse : parse separate = .ok o := hseparate.trans rfl
  exact ⟨hparse, hsame.symm.trans hparse, hinputs separate o hparse⟩

end

end Inlay.Options
