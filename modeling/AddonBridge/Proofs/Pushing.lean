import AddonBridge.Proofs.Transparency
import Mathlib.Data.Int.ModEq

/-!
# Pushed settings

A value crosses as bare memory without its type. `SettingInput.stored_holds` says that every getter
that makes sense of what is stored there reads it back. `setSetting_delivers` says that this memory
and the name are what the addon's callback is given.
-/

namespace AddonBridge

open Act World

variable {σ ν α : Type} {env : Env σ ν} {m : String} {w : World σ ν} {c : Context σ} {l : Loaded}

/-! ### Words -/

/-- Each bit of a number lies in one of the four bytes. -/
theorem word?_wordBytes (n : UInt32) : word? (wordBytes n) = some n := by
  rw [wordBytes, word?, Option.some.injEq, ← UInt32.toBitVec_inj]
  ext i small
  simp only [UInt32.toBitVec_or, UInt8.toBitVec_toUInt32, UInt32.toBitVec_toUInt8,
    UInt32.toBitVec_shiftLeft, UInt32.toBitVec_shiftRight, UInt32.toBitVec_ofNat,
    BitVec.ofNat_eq_ofNat, BitVec.reduceMod, BitVec.ushiftRight_eq', BitVec.toNat_ofNat,
    Nat.reducePow, Nat.reduceMod, BitVec.shiftLeft_eq', BitVec.getElem_or,
    BitVec.getElem_setWidth, BitVec.getLsbD_setWidth, BitVec.getElem_shiftLeft,
    BitVec.getLsbD_ushiftRight]
  grind

/-- The lowest byte comes first. -/
theorem bool?_wordBytes (n : UInt32) :
    SettingValue.bool? ⟨wordBytes n, false⟩ = some (decide (n.toNat % 256 ≠ 0)) := by
  simp [SettingValue.bool?, wordBytes, ← UInt8.toNat_inj]

theorem toInt_modEq (n : UInt32) : n.toInt32.toInt ≡ n.toNat [ZMOD 2 ^ 32] := by
  have signed : n.toInt32.toInt = (n.toNat : Int).bmod (2 ^ 32) := n.toBitVec.toInt_eq_toNat_bmod
  rw [Int.ModEq, signed]
  exact Int.bmod_emod

theorem toNat_modEq (i : Int32) : i.toUInt32.toNat ≡ i.toInt [ZMOD 2 ^ 32] := by
  simpa using (toInt_modEq i.toUInt32).symm

theorem lowest_byte_eq (i : Int32) : i.toUInt32.toNat % 256 = 0 ↔ i.toInt % 256 = 0 := by
  have low : i.toUInt32.toNat ≡ i.toInt [ZMOD 256] := (toNat_modEq i).of_dvd (by decide)
  rw [← low.eq]
  omega

/-! ### What memory holds -/

theorem CString.ofBytes_terminated (s : CString) : ofBytes (s.bytes ++ [0]) = s := by
  have whole : ∀ b ∈ s.bytes, decide (b ≠ 0) = true := fun b member =>
    decide_eq_true fun nul => s.nul_not_mem (nul ▸ member)
  have taken : (s.bytes ++ [0]).takeWhile (· ≠ 0) = s.bytes := by
    rw [List.takeWhile_append_of_pos whole]
    simp
  simp only [ofBytes, taken]

/-- Memory holds a value if the getter that fits reads it. Then the getters of the other kind of
number read one that is the same modulo 2^32, and a number is a truth value by its lowest byte. -/
def SettingValue.Holds (v : SettingValue) : SettingInput → Prop
  | .string s => v.string? = some s.text
  | .int i => v.int? = some i ∧ (∃ n, v.uint? = some n ∧ n.toNat ≡ i.toInt [ZMOD 2 ^ 32]) ∧
    v.bool? = some (decide (i.toInt % 256 ≠ 0))
  | .uint n => v.uint? = some n ∧ (∃ i, v.int? = some i ∧ i.toInt ≡ n.toNat [ZMOD 2 ^ 32]) ∧
    v.bool? = some (decide (n.toNat % 256 ≠ 0))
  | .bool b => v.bool? = some b
  | .float bits => v.float? = some bits ∧ v.bool? = some (decide (bits.toNat % 256 ≠ 0))

theorem SettingInput.stored_holds (input : SettingInput) : input.stored.Holds input := by
  cases input with
  | string s =>
    change some (CString.ofBytes (s.bytes ++ [0])).text = some s.text
    rw [CString.ofBytes_terminated]
  | int i =>
    have word : word? (wordBytes i.toUInt32) = some i.toUInt32 := word?_wordBytes _
    refine ⟨?_, ⟨_, word, toNat_modEq i⟩, ?_⟩
    · simp [stored, SettingValue.int?, word]
    · have lowest := bool?_wordBytes i.toUInt32
      simp only [ne_eq, lowest_byte_eq] at lowest
      exact lowest
  | uint n =>
    have word : word? (wordBytes n) = some n := word?_wordBytes n
    refine ⟨word, ⟨n.toInt32, ?_, toInt_modEq n⟩, bool?_wordBytes n⟩
    simp [stored, SettingValue.int?, word]
  | bool b => cases b <;> rfl
  | float bits => exact ⟨word?_wordBytes bits, bool?_wordBytes bits⟩

/-! ### The way to the callback -/

theorem Act.holding_at {act act' : Act σ ν α} (same : act (w.inUse m) = act' (w.inUse m)) :
    holding m act w = holding m act' w :=
  bind_at (observe_at same) _

theorem Dispatch.withContext_at {seat : Seat} {default : α} {f : Context σ → Act σ ν α}
    (here : w.contexts.get? seat = some c) : withContext seat default f w = f c w := by
  have found : Act.context? seat w = .ok (some c) w := congrArg (EStateM.Result.ok · w) here
  exact bind_of_ok found

namespace Exports

theorem guard_at {operation : String} {fallback : α} {act act' : Act σ ν α}
    (same : act w = act' w) : guard operation fallback act w = guard operation fallback act' w :=
  bind_at (observe_at same) _

/-- The addon's callback for a setting, in its slot and behind the guard of the function. -/
def pushTo (env : Env σ ν) (m : String) (c : Context σ) (name : String)
    (value : Option SettingValue) : Act σ ν Status :=
  guard "set_setting" .permanentFailure <| holding m <|
    Dispatch.callRoot env c (.setSetting name value) (·.setSetting · name value)

theorem setSetting_at (free : m ∉ w.busy) (here : w.contexts.get? (.module m) = some c)
    (name : CString) (value : Option SettingValue) :
    setSetting env m (some name) value w = pushTo env m c name.text value w :=
  guard_at ((withSlot_at free here).trans (holding_at (Dispatch.withContext_at here)))

end Exports

namespace LoadedAddon

theorem setSetting_at (addon : env.modules.native m = none) (created : l.isCreated)
    (functions : l.addonTable.function .setSetting = some m) (free : m ∉ w.busy)
    (here : w.contexts.get? (.module m) = some c) {name : CString} (input : SettingInput)
    (crossed : encoded name.text = .ok name) :
    setSetting env l name.text input w =
      (Except.ok <$> Exports.pushTo env m c name.text (some input.stored))
        (w.entered m (.setSetting (some name) (some input.stored))) := by
  have registered : registered l .setSetting = .ok m := by
    rw [registered, if_pos created, functions]
  let entry : EntryCall := .setSetting (some name) (some input.stored)
  let pushed := Exports.setSetting env m (some name) (some input.stored)
  calc setSetting env l name.text input w
    _ = (Except.map statusOf <$> send env (.ok (m, entry))) w := by
      rw [setSetting, registered, crossed]
      rfl
    _ = (Except.map statusOf <$> Except.ok <$> (fun s => CallAnswer.status s.toRaw) <$> pushed)
        (w.entered m entry) := by
      rw [send, Exports.call, addon]
      rfl
    _ = (Except.ok <$> pushed) (w.entered m entry) := by
      simp [Except.map, statusOf, Status.ofRaw_toRaw]
    _ = _ := map_at (Exports.setSetting_at (w := w.entered m entry) free here _ _) _

theorem textInput_of_nul {s : String} (nul : '\x00' ∈ s.toList) :
    textInput s = .error .nulString := by
  rw [textInput, SettingInput.string?, CString.ofText?_of_nul nul]
  rfl

theorem textInput_whole {s : String} (whole : '\x00' ∉ s.toList) :
    ∃ c, textInput s = .ok (.string c) ∧ c.text = s := by
  obtain ⟨c, crossed⟩ := CString.exists_ofText? whole
  refine ⟨c, ?_, CString.text_of_ofText? crossed⟩
  rw [textInput, SettingInput.string?, crossed]
  rfl

theorem run_releases (spares : env.Spares) {moves : List Move} {u : World σ ν}
    (done : run env moves w = .ok () u) : u.busy = w.busy :=
  ((ensures_ok done).mp (run_opens spares.opens moves w)).returned.busy

/-- The callback of a created addon gets the name of a pushed setting and memory that holds its
value, and the host gets the status that the callback gives. A text can be pushed unless there is a
NUL in it, and is read as it was. The moves of a host leave no slot in use. -/
theorem setSetting_delivers (modules : Modules σ ν) (isUnloading : Bool) (depth : Nat) :
    let env := Exports.env modules isUnloading depth
    (∀ (w : World σ ν) (l : Loaded) (m : String) (c : Context σ) (name : String)
      (input : SettingInput), modules.native m = none → l.isCreated →
      l.addonTable.function .setSetting = some m → w.contexts.get? (.module m) = some c →
      m ∉ w.busy → '\x00' ∉ name.toList →
      input.stored.Holds input ∧ ∃ crossed : CString, crossed.text = name ∧
        setSetting env l name input w =
          (Except.ok <$> Exports.pushTo env m c name (some input.stored))
            (w.entered m (.setSetting (some crossed) (some input.stored)))) ∧
    (∀ s, (textInput s = .error .nulString ↔ '\x00' ∈ s.toList) ∧
      ('\x00' ∉ s.toList → ∃ c, textInput s = .ok (.string c) ∧ c.text = s)) ∧
    ∀ (moves : List Move) (w u : World σ ν), run env moves w = .ok () u → u.busy = w.busy := by
  refine ⟨?_, fun s => ⟨⟨?_, textInput_of_nul⟩, textInput_whole⟩,
    fun moves w u => run_releases (Exports.env_spares modules isUnloading depth)⟩
  · intro w l m c name input native created functions here free whole
    have addon : (Exports.env modules isUnloading depth).modules.native m = none := by
      rwa [Exports.env_modules]
    obtain ⟨crossed, encoded, rfl⟩ := encoded_whole whole
    exact ⟨input.stored_holds, crossed, rfl,
      setSetting_at addon created functions free here input encoded⟩
  · intro refused
    by_contra whole
    obtain ⟨c, accepted, -⟩ := textInput_whole whole
    rw [refused] at accepted
    contradiction

theorem setSetting_delivers_level :
    let addon : Addon Unit Unit :=
      { build := fun _ => .done (.ok none)
        setSetting := fun _ name value => .done
          (if name = "level" ∧ value.bind (·.int?) = some (-5) then .ok else .unknown) }
    let env := Exports.env { addon := fun _ => addon } false 1
    let l : Loaded :=
      { module := "speaker", libPath := .empty, host := {}, isCreated := true
        addonTable := .full "speaker" }
    let c : Context Unit := { root := ⟨⟨⟨0, 0⟩, 0⟩, ⟨"speaker", ⟨0, 0⟩⟩, none⟩ }
    let w : World Unit Unit := { memory := fun _ => (), contexts := [(.module "speaker", c)] }
    ∃ u, setSetting env l "level" (.int (-5)) w = .ok (.ok .ok) u := by
  intro addon env l c w
  obtain ⟨pushed, -⟩ := setSetting_delivers { addon := fun _ => addon } false 1
  obtain ⟨-, crossed, -, came⟩ := pushed w l "speaker" c "level" (.int (-5)) rfl rfl rfl rfl
    List.not_mem_nil (by decide)
  exact ⟨_, came.trans rfl⟩

end LoadedAddon

end AddonBridge
