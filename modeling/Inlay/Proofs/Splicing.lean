import Inlay.Proofs.Tiling
import Inlay.Splice

/-!
# What splicing copies

Splicing goes through the regions in order and copies what stands between them (`splice_eq`). A
region without formatted code is copied like the text around it, so a result changes the text of
its own region and nothing else (`splice_single`).
-/

namespace Inlay

namespace Text

variable {t : Text} {a b c : Nat}

theorem slice_append (hab : a ≤ b) (hbc : b ≤ c) : slice t a b ++ slice t b c = slice t a c := by
  have hb : (t.drop a).drop (b - a) = t.drop b := by
    rw [List.drop_drop, Nat.add_sub_cancel' hab]
  have hc : c - a = (b - a) + (c - b) := by omega
  rw [slice, slice, slice, hc, List.take_add, hb]

theorem slice_length : slice t a t.length = t.drop a :=
  List.take_of_length_le (by simp)

theorem slice_append_drop (hab : a ≤ b) : slice t a b ++ t.drop b = t.drop a := by
  rw [← List.take_append_drop (b - a) (t.drop a), List.drop_drop, Nat.add_sub_cancel' hab]
  rfl

theorem slice_zero : slice t 0 b = t.take b := rfl

end Text

/-- The text from an offset on, with the results of the regions that lie behind it. -/
def spliceFrom (t : Text) (results : List (Option RegionResult)) (start id : Nat) :
    List Region → Text
  | [] => t.drop start
  | r :: regions =>
    Text.slice t start r.span.start ++ r.render t results[id]?.join ++
      spliceFrom t results r.span.stop (id + 1) regions

/-- What is said of a region and the code it was given holds of every region that was given some. -/
def Given (P : Region → Text → Prop) (results : List (Option RegionResult)) (id : Nat)
    (regions : List Region) : Prop :=
  ∀ x ∈ regions.zipIdx id, ∀ code, results[x.2]?.join = some (.formatted code) → P x.1 code

section

variable {t : Text} {results : List (Option RegionResult)} {start id i : Nat} {r : Region}
  {regions : List Region} {code : Text}

open Inlay.Partition

theorem Apart.splice_segmentsFrom (h : Apart t.length start regions) :
    ((segmentsFrom t.length start id regions).flatMap fun
      | .host span => Text.slice t span.start span.stop
      | .embedded id region => region.render t results[id]?.join) =
    spliceFrom t results start id regions := by
  induction regions generalizing start id with
  | nil =>
    rw [segmentsFrom, spliceFrom]
    split
    · simp [Text.slice_length]
    · next hge => exact (List.drop_eq_nil_of_le (Nat.le_of_not_lt hge)).symm
  | cons r regions ih =>
    rw [segmentsFrom_cons h, List.flatMap_cons, List.flatMap_cons, ih h.2.2, spliceFrom,
      List.append_assoc]

theorem Partition.splice_eq {indentation : Indentation} {p : Partition}
    (h : build indentation (.ofText t) = .ok p) :
    p.splice results = spliceFrom t results 0 0 p.regions := by
  have hapart := regions_apart h
  obtain ⟨rs, -, rfl⟩ := build_eq_ok_iff.mp h
  exact hapart.splice_segmentsFrom

theorem RegionResult.formatted_or_kept (result : Option RegionResult) :
    (∃ code, result = some (.formatted code)) ∨ ∀ code, result ≠ some (.formatted code) :=
  (Classical.em _).imp_right not_exists.mp

theorem Region.render_of_ne_formatted {result : Option RegionResult}
    (h : ∀ code, result ≠ some (.formatted code)) :
    r.render t result = Text.slice t r.span.start r.span.stop := by
  unfold render
  split
  · next code => exact absurd rfl (h code)
  · rfl

theorem given_cons {P : Region → Text → Prop} :
    Given P results id (r :: regions) ↔
      (∀ code, results[id]?.join = some (.formatted code) → P r code) ∧
        Given P results (id + 1) regions := by
  simp only [Given, List.zipIdx_cons, List.forall_mem_cons]

theorem Given.of_forall₂ {P : Region → Text → Prop} {R : Region → Region → Prop}
    {regions' : List Region} (h : Given P results id regions)
    (hregions : List.Forall₂ R regions regions')
    (hP : ∀ r r' code, R r r' → P r code → P r' code) : Given P results id regions' := by
  induction hregions generalizing id with
  | nil => exact h
  | cons hr _ ih =>
    obtain ⟨hgiven, h⟩ := given_cons.mp h
    exact given_cons.mpr ⟨fun code hcode => hP _ _ code hr (hgiven code hcode), ih h⟩

/-- A relation of texts that holds of what the regions become, piece by piece, holds of the text. -/
theorem Apart.spliceFrom_lift {S : Text → Text → Prop} (hrefl : ∀ a, S a a)
    (happend : ∀ {a a' b b'}, S a a' → S b b' → S (a ++ b) (a' ++ b'))
    (h : Apart t.length start regions)
    (hrender : ∀ x ∈ regions.zipIdx id, S (x.1.render t results[x.2]?.join)
      (Text.slice t x.1.span.start x.1.span.stop)) :
    S (spliceFrom t results start id regions) (t.drop start) := by
  induction regions generalizing start id with
  | nil => exact hrefl _
  | cons r regions ih =>
    rw [List.zipIdx_cons] at hrender
    obtain ⟨hr, hrender⟩ := List.forall_mem_cons.mp hrender
    rw [spliceFrom, ← Text.slice_append_drop (Nat.le_of_lt h.1),
      ← Text.slice_append_drop (Nat.le_of_lt h.2.1), ← List.append_assoc]
    exact happend (happend (hrefl _) hr) (ih h.2.2 hrender)

theorem Apart.spliceFrom_of_render (h : Apart t.length start regions)
    (hrender : ∀ x ∈ regions.zipIdx id,
      x.1.render t results[x.2]?.join = Text.slice t x.1.span.start x.1.span.stop) :
    spliceFrom t results start id regions = t.drop start :=
  h.spliceFrom_lift (fun _ => rfl) (fun ha hb => by rw [ha, hb]) hrender

theorem Apart.spliceFrom_kept (h : Apart t.length start regions)
    (hkept : ∀ j code, id ≤ j → results[j]?.join ≠ some (.formatted code)) :
    spliceFrom t results start id regions = t.drop start :=
  h.spliceFrom_of_render fun x hx => Region.render_of_ne_formatted fun code =>
    hkept x.2 code (List.le_snd_of_mem_zipIdx hx)

theorem Apart.spliceFrom_single (h : Apart t.length start regions) (hr : regions[i]? = some r)
    (hcode : results[id + i]?.join = some (.formatted code))
    (hkept : ∀ j code, id ≤ j → j ≠ id + i → results[j]?.join ≠ some (.formatted code)) :
    spliceFrom t results start id regions =
      Text.slice t start r.span.start ++ r.reindent code ++ t.drop r.span.stop := by
  induction regions generalizing start id i with
  | nil => simp at hr
  | cons first regions ih =>
    rw [spliceFrom]
    cases i with
    | zero =>
      obtain rfl : first = r := by simpa using hr
      rw [h.2.2.spliceFrom_kept fun j code hj => hkept j code (by omega) (by omega)]
      rw [Nat.add_zero] at hcode
      rw [hcode, Region.render]
    | succ i =>
      -- the first region is copied with the text on both sides of it
      have hlt := h.2.2.lt_start (List.mem_of_getElem? (by simpa using hr))
      rw [Region.render_of_ne_formatted fun code => hkept id code (Nat.le_refl _) (by omega),
        ih (i := i) h.2.2 (by simpa using hr) (by rwa [Nat.add_assoc, Nat.add_comm 1]) ?_,
        ← List.append_assoc, ← List.append_assoc,
        Text.slice_append (Nat.le_of_lt h.1) (Nat.le_of_lt h.2.1),
        Text.slice_append (Nat.le_of_lt (Nat.lt_trans h.1 h.2.1)) (Nat.le_of_lt hlt)]
      exact fun j code hj hne => hkept j code (by omega) (by omega)

theorem Partition.splice_single {indentation : Indentation} {p : Partition}
    (h : build indentation (.ofText t) = .ok p) (hr : p.regions[i]? = some r) :
    p.splice (List.replicate i none ++ [some (.formatted code)]) =
      t.take r.span.start ++ r.reindent code ++ t.drop r.span.stop := by
  have hi : (List.replicate i none ++ [some (.formatted code)])[0 + i]?.join =
      some (RegionResult.formatted code) := by
    simp
  rw [splice_eq h, (regions_apart h).spliceFrom_single hr hi ?_, Text.slice_zero]
  intro j code' _ hne
  rw [Nat.zero_add] at hne
  rcases Nat.lt_or_gt_of_ne hne with hlt | hgt
  · rw [List.getElem?_append_left (by simpa using hlt), List.getElem?_replicate_of_lt hlt]
    simp
  · rw [List.getElem?_eq_none (by simp; omega)]
    simp

end

end Inlay
