import SoundControl.Fields
import SoundControl.Proofs.Wire.Failures

/-! # Binding stores every argument or none

A binding fails on a count that differs or at the first slot whose kind is not its field's, and
then stores nothing, or it stores every argument at its field's target and leaves every other
place as it was (`scan_binds_all_or_nothing`). -/

namespace SoundControl

/-- Whether a slot's type tag is the field kind's: an empty slot has the tag `invalid`, which is
no field's. -/
def FieldKind.fits (k : FieldKind) (slot : Option Argument) : Bool :=
  slot.map Argument.tag == some k.tag

/-- The index of the first slot whose kind is not its field's. -/
def firstMisfit (args : List (Option Argument)) (kinds : List FieldKind) : Option Nat :=
  (args.zip kinds).findIdx? fun p => !p.2.fits p.1

/-- The first misfit is at `i` exactly when slot `i` does not fit its field and every slot before
it does. -/
theorem firstMisfit_eq_some_iff {args : List (Option Argument)} {kinds : List FieldKind} {i : Nat} :
    firstMisfit args kinds = some i ↔
      ∃ (ha : i < args.length) (hk : i < kinds.length), kinds[i].fits args[i] = false ∧
        ∀ j (hj : j < i), kinds[j].fits args[j] = true := by
  rw [firstMisfit, List.findIdx?_eq_some_iff_getElem]
  simp only [List.length_zip, List.getElem_zip, Bool.not_eq_eq_eq_not, Bool.not_true,
    Bool.not_eq_false, Nat.lt_min]
  constructor
  · rintro ⟨⟨ha, hk⟩, hi, hj⟩
    exact ⟨ha, hk, hi, fun j hji => hj j hji⟩
  · rintro ⟨ha, hk, hi, hj⟩
    exact ⟨⟨ha, hk⟩, hi, fun j hji => hj j hji⟩

/-! ## The kind check and the store's type test -/

/-- A field takes the argument of every slot whose kind it has. -/
theorem FieldKind.take_of_fits {k : FieldKind} {slot : Option Argument} (h : k.fits slot = true) :
    k.take slot = slot := by
  rcases slot with _ | (_ | _ | _ | _) <;> cases k <;>
    simp_all [FieldKind.fits, FieldKind.take, Argument.tag, FieldKind.tag]

@[simp] theorem firstMisfit_nil_left (kinds : List FieldKind) : firstMisfit [] kinds = none := rfl

@[simp] theorem firstMisfit_nil_right (args : List (Option Argument)) :
    firstMisfit args [] = none := by
  simp [firstMisfit]

theorem firstMisfit_cons (a : Option Argument) (args : List (Option Argument)) (k : FieldKind)
    (kinds : List FieldKind) :
    firstMisfit (a :: args) (k :: kinds) =
      if k.fits a then (firstMisfit args kinds).map (· + 1) else some 0 := by
  rw [firstMisfit, List.zip_cons_cons, List.findIdx?_cons]
  cases k.fits a <;> rfl

/-- A kind check that fails reports a kind mismatch at the first slot that does not fit. -/
theorem checkKinds_eq_error {i : Nat} {args : List (Option Argument)} {kinds : List FieldKind}
    {e : Error} (h : checkKinds i args kinds = .error e) :
    e.fault = .fieldTypeMismatch ∧ ∃ j, firstMisfit args kinds = some j ∧ e.argument = some (i + j) := by
  fun_induction checkKinds i args kinds generalizing e with
  | case1 i a args k kinds ht ih =>
    -- the slot fits, so the failure comes from a slot after it
    have hfit : k.fits (some a) = true := by simp [FieldKind.fits, ht]
    obtain ⟨hf, j, hj, harg⟩ := ih (Except.map_eq_error.mp h)
    refine ⟨hf, j + 1, by simp [firstMisfit_cons, hfit, hj], ?_⟩
    rw [harg, Nat.add_right_comm, Nat.add_assoc]
  | case2 i a args k kinds ht =>
    cases h
    exact ⟨rfl, 0, by simp [firstMisfit_cons, FieldKind.fits, ht], rfl⟩
  | case3 i args k kinds =>
    cases h
    exact ⟨rfl, 0, by simp [firstMisfit_cons, FieldKind.fits], rfl⟩
  | case4 => cases h

/-- A kind check that passes found every slot to fit its field. -/
theorem checkKinds_eq_ok {i : Nat} {args : List (Option Argument)} {kinds : List FieldKind}
    {vs : List Argument} (h : checkKinds i args kinds = .ok vs) : firstMisfit args kinds = none := by
  fun_induction checkKinds i args kinds generalizing vs with
  | case1 i a args k kinds ht ih =>
    have hfit : k.fits (some a) = true := by simp [FieldKind.fits, ht]
    obtain ⟨vs', hr, -⟩ := Except.map_eq_ok.mp h
    simp [firstMisfit_cons, hfit, ih hr]
  | case2 => cases h
  | case3 => cases h
  | case4 args i kinds hsome hnone =>
    -- no slot is left with a field to check, so one of the lists has run out
    cases kinds with
    | nil => exact firstMisfit_nil_right args
    | cons k kinds =>
      rcases args with _ | ⟨_ | a, rest⟩
      · rfl
      · exact (hnone rest k kinds rfl rfl).elim
      · exact (hsome a rest k kinds rfl rfl).elim

/-! ## Storing through fields -/

section Memory

variable {α : Type} [DecidableEq α]

/-- A field stores nowhere but at its target. -/
theorem Field.set_apply_of_ne (f : Field α) (mem : α → Argument) (slot : Option Argument) {x : α}
    (hx : x ≠ f.target) : (f.set mem slot).1 x = mem x := by
  unfold Field.set
  cases f.kind.take slot with
  | none => rfl
  | some a => simp [hx]

/-- A field stores an argument of its kind at its target. -/
theorem Field.set_target (f : Field α) (mem : α → Argument) {a : Argument}
    (h : f.kind.fits (some a) = true) : (f.set mem (some a)).1 f.target = a := by
  simp [Field.set, FieldKind.take_of_fits h]

/-- Storing through fields leaves every place that is no field's target as it was. -/
theorem Field.setAll_apply_of_not_mem (mem : α → Argument) (args : List (Option Argument))
    (fields : List (Field α)) {x : α} (hx : x ∉ fields.map Field.target) :
    Field.setAll mem args fields x = mem x := by
  induction args generalizing mem fields with
  | nil => cases fields <;> rfl
  | cons a args ih =>
    cases fields with
    | nil => rfl
    | cons f fields =>
      simp only [List.map_cons, List.mem_cons, not_or] at hx
      rw [Field.setAll, ih _ _ hx.2, Field.set_apply_of_ne f mem a hx.1]

/-- Storing slots that all fit, through fields with distinct targets, leaves each field's
target holding the argument of its slot. -/
theorem Field.setAll_target (mem : α → Argument) {args : List (Option Argument)}
    {fields : List (Field α)} (hlen : args.length = fields.length)
    (hfit : firstMisfit args (fields.map Field.kind) = none)
    (hd : (fields.map Field.target).Nodup) (i : Nat) (hi : i < fields.length) :
    args[i]? = some (some (Field.setAll mem args fields fields[i].target)) := by
  induction args generalizing mem fields i with
  | nil => simp at hlen; omega
  | cons a args ih =>
    cases fields with
    | nil => simp at hi
    | cons f fields =>
      simp only [List.map_cons, firstMisfit_cons] at hfit
      split at hfit
      · rename_i hf
        simp only [Option.map_eq_none_iff] at hfit
        simp only [List.map_cons, List.nodup_cons] at hd
        cases i with
        | zero =>
          -- the later stores leave the first target alone, since no later field shares it
          rcases a with _ | a
          · simp [FieldKind.fits] at hf
          · simp only [List.getElem?_cons_zero, List.getElem_cons_zero, Field.setAll]
            rw [Field.setAll_apply_of_not_mem _ _ _ hd.1, Field.set_target f mem hf]
        | succ i =>
          simp only [List.getElem?_cons_succ, List.getElem_cons_succ, Field.setAll]
          exact ih _ (by simpa using hlen) hfit hd.2 i (by simpa using hi)
      · cases hfit

/-! ## Binding -/

/-- A binding of as many slots as fields checks their kinds; one of a different number fails on
the counts. -/
theorem scan_eq (args : List (Option Argument)) (kinds : List FieldKind) :
    scan args kinds = if args.length = kinds.length then checkKinds 0 args kinds
      else .error (scanError .arityMismatch
        (toString args.length ++ " arguments, " ++ toString kinds.length ++ " fields")) := by
  unfold scan
  by_cases h : args.length = kinds.length <;> simp [h]

/-- Binding argument slots to fields with distinct targets fails on the counts, with no argument
index, exactly when they differ; with equal counts it fails on a kind exactly when some slot's
kind is not its field's, and names the first such slot. A failed binding stores nothing, and one
that succeeds stores each argument at its field's target and nothing anywhere else. -/
theorem scan_binds_all_or_nothing (mem : α → Argument) (args : List (Option Argument))
    (fields : List (Field α)) (hd : (fields.map Field.target).Nodup) :
    ((∃ e, (scanInto mem args fields).2 = some e ∧ e.fault = .arityMismatch ∧
        e.argument = none) ↔ args.length ≠ fields.length) ∧
    (args.length = fields.length → ∀ i,
      (∃ e, (scanInto mem args fields).2 = some e ∧ e.fault = .fieldTypeMismatch ∧
        e.argument = some i) ↔ firstMisfit args (fields.map Field.kind) = some i) ∧
    ((scanInto mem args fields).2 = none ↔
      args.length = fields.length ∧ firstMisfit args (fields.map Field.kind) = none) ∧
    ((scanInto mem args fields).2 ≠ none → (scanInto mem args fields).1 = mem) ∧
    ((scanInto mem args fields).2 = none →
      (∀ i (hi : i < fields.length),
        args[i]? = some (some ((scanInto mem args fields).1 fields[i].target))) ∧
      ∀ x, x ∉ fields.map Field.target → (scanInto mem args fields).1 x = mem x) := by
  by_cases hlen : args.length = fields.length
  · cases hc : checkKinds 0 args (fields.map Field.kind) with
    | error e =>
      have hs : scanInto mem args fields = (mem, some e) := by
        simp [scanInto, scan_eq, hlen, hc]
      obtain ⟨hf, j, hj, harg⟩ := checkKinds_eq_error hc
      rw [Nat.zero_add] at harg
      rw [hs]
      refine ⟨by simp [hf, hlen], fun _ i => ?_, by simp [hj], fun _ => rfl, by simp⟩
      simp [hf, harg, hj]
    | ok vs =>
      have hs : scanInto mem args fields = (Field.setAll mem args fields, none) := by
        simp [scanInto, scan_eq, hlen, hc]
      have hfit := checkKinds_eq_ok hc
      rw [hs]
      refine ⟨by simp [hlen], fun _ i => by simp [hfit], by simp [hlen, hfit], by simp,
        fun _ => ⟨Field.setAll_target mem hlen hfit hd, ?_⟩⟩
      exact fun x hx => Field.setAll_apply_of_not_mem mem args fields hx
  · have hs : scanInto mem args fields = (mem, some (scanError .arityMismatch
        (toString args.length ++ " arguments, " ++ toString (fields.map Field.kind).length ++
          " fields"))) := by
      simp [scanInto, scan_eq, hlen]
    rw [hs]
    refine ⟨by simp [hlen, scanError], fun h => absurd h hlen, by simp [hlen], fun _ => rfl,
      by simp⟩

/-- Binding `9` and the string `no` to an int32 field and a float32 field fails at the string and
leaves both places holding what they held. -/
theorem scan_binds_all_or_nothing_sample :
    (([⟨.int32, 0⟩, ⟨.float32, 1⟩] : List (Field Nat)).map Field.target).Nodup ∧
    firstMisfit [some (.int32 9), some (.string [0x6E, 0x6F])] [.int32, .float32] = some 1 ∧
    (scanInto (fun _ : Nat => .int32 5) [some (.int32 9), some (.string [0x6E, 0x6F])]
      [⟨.int32, 0⟩, ⟨.float32, 1⟩]).1 = fun _ => .int32 5 := by
  have hd : (([⟨.int32, 0⟩, ⟨.float32, 1⟩] : List (Field Nat)).map Field.target).Nodup := by
    decide
  have hm : firstMisfit [some (.int32 9), some (.string [0x6E, 0x6F])] [.int32, .float32] =
      some 1 := by
    decide
  have h := scan_binds_all_or_nothing (fun _ : Nat => .int32 5)
    [some (.int32 9), some (.string [0x6E, 0x6F])] [⟨.int32, 0⟩, ⟨.float32, 1⟩] hd
  obtain ⟨e, he, -, -⟩ := (h.2.1 rfl 1).mpr hm
  exact ⟨hd, hm, h.2.2.2.1 (by simp [he])⟩

end Memory

end SoundControl
