import AddonBridge.Proofs.HostRun
import AddonBridge.Proofs.Installing
import AddonBridge.Proofs.SettingStore

/-!
# What becomes of texts on their way

Bytes cross, up to the first NUL, and each side makes its own texts of them. A text loses its NUL
characters before it goes out, so what is read on the other side lacks those and nothing else.
`conveys_relayed` says so of every text, in both directions.
-/

namespace AddonBridge

variable {σ ν : Type} {w : World σ ν} {t : TableId} {l : Loaded} {table : HostTable}

/-- A text without its NUL characters. -/
def Text.withoutNul (s : String) : String := String.ofList (s.toList.filter (· ≠ '\x00'))

open Text (withoutNul)

theorem Text.withoutNul_of_clean {s : String} (clean : '\x00' ∉ s.toList) : withoutNul s = s :=
  Setting.string.inj (Setting.clean_of_fits (v := .string s) clean)

/-- A path that leads on from a base: one separator comes before a segment that brings none. -/
structure Path.Extends (base segment path : String) : Prop where
  empty : segment = "" → path = base
  nonempty : ∀ c rest, segment.toList = c :: rest →
    path.toList = base.toList ++ (if c = '/' ∨ c = '\\' then [] else ['/']) ++ segment.toList

theorem Path.join_extends (base segment : String) : Extends base segment (join base segment) where
  empty none := by
    subst none
    rfl
  nonempty c rest starts := by
    have some : segment.isEmpty = false := by
      rw [Bool.eq_false_iff]
      intro empty
      rw [String.isEmpty_iff.mp empty] at starts
      contradiction
    have first : startsSeparated segment = decide (c = '/' ∨ c = '\\') := by
      simp [startsSeparated, starts]
    rw [join, some, first]
    by_cases brings : c = '/' ∨ c = '\\'
    · simp [brings]
    · simp [brings, separator]

/-- The host's own function stands in a table. -/
def HostTable.Provides (table : HostTable) (f : HostFunction) : Prop :=
  table.provider f = some .host

/-- Texts cross an interface in both directions, each by the function for it: messages to the host
behind it, and the texts that this host answers with, in view of what came to it so far, to the addon.
Strings need not be given back. -/
structure World.Conveys (w : World σ ν) (t : TableId) (host : Host) (table : HostTable) : Prop where
  log : table.Provides .addonLogMsg → ∀ level message,
    HostAccess.call t (.log level message) w =
      .ok true (w.logged t [(level, withoutNul message)])
  /-- Through the sink, whoever logs, if the facade's logger is the one that sends records there and
  debug records are told. -/
  emit : table.Provides .addonLogMsg → w.sink = some t → w.facade.passes .debug →
    ∀ level message, level ≠ .trace →
      Log.emit level message w = .ok () (w.logged t [(level.toHost, withoutNul message)])
  typeVersion : table.Provides .getTypeVersion → ∀ ty, ∃ u,
    HostAccess.call t (.typeVersion ty) w =
      .ok (withoutNul (host.answer (w.heard t) (.typeVersion ty))) u
  addonPath : table.Provides .getAddonPath → ∀ segment, ∃ path u,
    HostAccess.call t (.addonPath segment) w = .ok path u ∧
      Path.Extends (withoutNul (host.answer (w.heard t) .addonPath)) segment path
  userPath : table.Provides .getBaseUserPath → ∀ segment, ∃ path u,
    HostAccess.call t (.userPath segment) w = .ok path u ∧
      Path.Extends (withoutNul (host.answer (w.heard t) .userPath)) segment path
  check : table.Provides (.getSetting .string) → ∀ id s, '\x00' ∉ id.toList →
    host.answer (w.heard t) (.setting id) = some (.string s) → ∃ u,
      HostAccess.call t (.check .string id) w = .ok (some (.string (withoutNul s))) u
  setting : table.Provides (.getSetting .string) → ∀ id s default, '\x00' ∉ id.toList →
    host.answer (w.heard t) (.setting id) = some (.string s) → ∃ u,
      HostAccess.call t (.setting id (.string default)) w = .ok (.string (withoutNul s)) u

open Act

/-! ### To the host -/

theorem HostTable.heard_of_provides (based : table.hasBase = true)
    (provides : table.Provides .addonLogMsg) (level : LogLevel) (message : String) :
    table.heard level message = [(level, withoutNul message)] := by
  rw [heard, provides, if_pos ⟨rfl, based⟩, CString.text_strip]
  rfl

theorem Log.emit_at (here : w.loaded.get? t = some l) (linked : l.hostTable = some table)
    (bound : w.sink = some t) {level : RecordLevel} (passes : w.facade.passes level)
    (message : String) :
    emit level message w = .ok () (w.logged t (table.heard level.toHost message)) := by
  have asked : (get : Act σ ν _) w = .ok w w := rfl
  rw [emit, bind_of_ok asked, if_pos passes, toSink, bind_of_ok asked, bound]
  exact map_of_ok (toHost_at here linked level.toHost message)

/-- What the facade does not let through changes nothing. -/
theorem Log.emit_hidden {level : RecordLevel} (hidden : ¬w.facade.passes level) (message : String) :
    emit level message w = .ok () w := by
  have asked : (get : Act σ ν _) w = .ok w w := rfl
  rw [emit, bind_of_ok asked, if_neg hidden]
  rfl

/-! ### From the host -/

theorem HostService.shareText_ensures (here : w.Presents t l) (s : String) :
    Ensures (shareText t (some s)) w (fun c u => c = some (.strip s) ∧ u.Presents t l)
      fun _ _ => False :=
  ⟨rfl, (here.reads.counted (f := (· + 1))).presents⟩

namespace HostAccess

/-- A text that the host gave, and that is given back. -/
theorem shared_ensures (here : w.Presents t l) (text : String) :
    Ensures (do takeText t table (← HostService.shareText t (some text))) w
      (fun s _ => s = withoutNul text) fun _ _ => False := by
  rw [ensures_bind]
  refine (HostService.shareText_ensures here text).mono ?_ fun _ _ => id
  rintro _ u ⟨rfl, here⟩
  refine (takeText_ensures here _).mono ?_ fun _ _ => id
  rintro s v ⟨rfl, -⟩
  exact CString.text_strip text

theorem typeVersion_ensures (here : w.Presents t l) (linked : l.hostTable = some table)
    (based : table.hasBase = true) (provides : table.Provides .getTypeVersion) (ty : AddonType) :
    Ensures (typeVersion t ty) w
      (fun s _ => s = withoutNul (l.host.answer (w.heard t) (.typeVersion ty)))
      fun _ _ => False := by
  rw [Ensures, typeVersion, offered_eq here linked provides, based, HostService.typeVersion,
    bind_assoc, bind_of_ok (HostService.consult_eq here (.typeVersion ty)), ← Ensures]
  exact shared_ensures (here.asked _) _

theorem addonPath_ensures (here : w.Presents t l) (linked : l.hostTable = some table)
    (based : table.hasBase = true) (provides : table.Provides .getAddonPath) (segment : String) :
    Ensures (addonPath t segment) w (fun path _ =>
      Path.Extends (withoutNul (l.host.answer (w.heard t) .addonPath)) segment path)
      fun _ _ => False := by
  rw [addonPath, ensures_bind, Ensures, offered_eq here linked provides]
  dsimp only
  rw [based, HostService.addonPath, bind_assoc, bind_of_ok (HostService.consult_eq here .addonPath),
    ← Ensures]
  refine (shared_ensures (here.asked _) _).mono ?_ fun _ _ => id
  rintro base u rfl
  exact Path.join_extends _ segment

theorem userPath_ensures (here : w.Presents t l) (linked : l.hostTable = some table)
    (based : table.hasBase = true) (provides : table.Provides .getBaseUserPath) (segment : String) :
    Ensures (userPath t segment) w (fun path _ =>
      Path.Extends (withoutNul (l.host.answer (w.heard t) .userPath)) segment path)
      fun _ _ => False := by
  rw [userPath, ensures_bind, Ensures, offered_eq here linked provides, based, HostService.userPath,
    bind_assoc, bind_of_ok (HostService.consult_eq here .userPath), ← Ensures]
  refine (shared_ensures (here.asked _) _).mono ?_ fun _ _ => id
  rintro base u rfl
  exact Path.join_extends _ segment

theorem check_string_ensures (here : w.Presents t l) (linked : l.hostTable = some table)
    (based : table.hasBase = true) (provides : table.Provides (.getSetting .string)) {id s : String}
    (clean : '\x00' ∉ id.toList)
    (kept : l.host.answer (w.heard t) (.setting id) = some (.string s)) :
    Ensures (check t .string id) w (fun found _ => found = some (.string (withoutNul s)))
      fun _ _ => False := by
  refine (ensures_map ..).mpr ((checkString_ensures here linked based provides clean).mono ?_
    fun _ _ => False.elim)
  rintro found u ⟨read, -⟩
  rw [kept] at read
  exact read

theorem setting_string_ensures (here : w.Presents t l) (linked : l.hostTable = some table)
    (based : table.hasBase = true) (provides : table.Provides (.getSetting .string)) {id s : String}
    (clean : '\x00' ∉ id.toList)
    (kept : l.host.answer (w.heard t) (.setting id) = some (.string s)) (default : String) :
    Ensures (setting t id (.string default)) w (fun v _ => v = .string (withoutNul s))
      fun _ _ => False := by
  rw [setting, ensures_bind]
  refine (check_string_ensures here linked based provides clean kept).mono ?_ fun _ _ => False.elim
  rintro found u rfl
  rfl

end HostAccess

/-! ### Through the sink, while addons are driven -/

namespace World

/-- Debug records go to the sink while it is bound, and will when it is bound again. -/
structure Audible (w : World σ ν) : Prop where
  ready : w.facade.installed.passes .debug
  bound : w.sink ≠ none → w.facade.passes .debug

theorem Audible.of_facade {u : World σ ν} (audible : w.Audible) (grows : w.facade.Grows u.facade)
    (sink : u.sink = w.sink ∨ u.sink = none) : u.Audible where
  ready := by
    rcases grows with same | set
    · rw [same]
      exact audible.ready
    · rw [set, Facade.installed_installed]
      exact audible.ready
  bound sunk := by
    rcases sink with same | none
    · have passes := audible.bound (same ▸ sunk)
      exact Facade.Grows.passes grows passes
    · exact absurd none sunk

theorem Audible.boundTo (audible : w.Audible) (t : TableId) : (w.boundTo t).Audible where
  ready := by
    rw [Facade.installed_installed]
    exact audible.ready
  bound _ := audible.ready

/-- What addons do leaves records audible. -/
def Sounds (w u : World σ ν) : Prop := w.Audible → u.Audible

theorem Sounds.same {u : World σ ν} (facade : u.facade = w.facade) (sink : u.sink = w.sink) :
    w.Sounds u :=
  fun audible => audible.of_facade (.inl facade) (.inl sink)

theorem Sounds.lenient : Lenient (Sounds : World σ ν → World σ ν → Prop) where
  refl _ := id
  trans _ _ _ first second := second ∘ first
  stirs _ _ stirs audible := audible.of_facade stirs.facade (.inl stirs.sink)
  raised _ _ := .same rfl rfl
  marked _ _ := .same rfl rfl
  reseat _ _ _ _ _ _ _ _ := .same rfl rfl
  released _ _ _ _ h audible :=
    (h (audible.of_facade (.inl rfl) (.inl rfl))).of_facade (.inl rfl) (.inl rfl)
  moved _ _ _ := .same rfl rfl
  emptied _ _ _ := .same rfl rfl
  withdrawn _ _ _ _ _ _ h audible :=
    (h (audible.of_facade (.inl rfl) (.inl rfl))).of_facade (.inl rfl) (.inl rfl)
  unbound _ audible := audible.of_facade (.inl rfl) (.inr rfl)

theorem Sounds.creates {m : String} : Lenient.Creates (Sounds : World σ ν → World σ ν → Prop) m t where
  registered _ _ _ before audible := (before audible).of_facade (.inl rfl) (.inl rfl)
  seated _ _ _ _ _ := .same rfl rfl
  published _ _ _ _ before audible := (before audible).of_facade (.inl rfl) (.inl rfl)

end World

variable {δ : Type} [Panics δ]

theorem Exports.call_sounds {env : Env σ ν δ} (within : env.Within World.Sounds {})
    (spares : env.Spares) (m : String) (c : EntryCall) :
    Obeys (Change.unlessAborted World.Sounds) (call env m c) := by
  have permits := World.Sounds.lenient.permits within
  refine World.Sounds.lenient.call_obeys within fun table api _ => ?_
  cases native : env.modules.native m with
  | some a =>
    intro w
    have follows := permits.modules.native m a native
    have called := callNative_obeys permits.toKeeps m follows (c := .create table api)
      fun _ _ _ _ _ _ _ _ => .same rfl rfl
    rw [call, ensures_bind, ensures_record, native]
    exact called.continues permits.law fun _ => .same rfl rfl
  | none =>
    exact World.Sounds.lenient.create_keeps within spares (fun _ t audible => audible.boundTo t)
      native fun _ _ => World.Sounds.creates

/-- Unless another logger is set to begin with, debug records go to the sink whenever it is bound. -/
theorem LoadedAddon.run_audible (modules : Modules σ ν δ) (unloading : Bool) (depth : Nat)
    (moves : List Move) : Obeys (Change.unlessAborted World.Sounds)
      (run (Exports.env modules unloading depth) moves) := by
  have law : Law (Change.unlessAborted World.Sounds : Change σ ν) := World.Sounds.lenient.law
  have spares := Exports.env_spares modules unloading depth
  have within : (Exports.env modules unloading depth).Within World.Sounds {} :=
    World.Sounds.lenient.env_within (fun depth within m _ _ =>
      Exports.call_sounds within (Exports.env_spares modules unloading depth) m _) depth
  refine run_obeys law fun move _ => step_obeys law (Exports.call_sounds within spares) ?_
  exact ⟨fun _ _ _ _ _ => .same rfl rfl, fun _ _ _ => .same rfl rfl, fun _ _ _ _ => .same rfl rfl,
    fun _ _ _ _ => .same rfl rfl, fun _ _ _ _ => .same rfl rfl⟩

namespace HostAccess

/-! ### Both ways -/

/-- Through a table that has its base pointer, messages arrive at the host and the host's texts at
the addon, each without its NUL characters and otherwise as it was sent. A record that is logged through
the facade is heard while the sink is bound, whatever a host does with its addons, unless another logger
was set before. -/
theorem conveys_relayed (here : w.loaded.get? t = some l) (linked : l.hostTable = some table)
    (based : table.hasBase = true) :
    w.Conveys t l.host table ∧ (∀ s, '\x00' ∉ s.toList → withoutNul s = s) ∧
      (∀ memory, ({ memory } : World σ ν).Audible) ∧
      ∀ (modules : Modules σ ν δ) (unloading : Bool) (depth : Nat) (moves : List LoadedAddon.Move)
        (u v : World σ ν), u.Audible →
        LoadedAddon.run (Exports.env modules unloading depth) moves u = .ok () v → v.Audible := by
  have presents : w.Presents t l := ⟨l.outstanding, here⟩
  refine ⟨⟨fun provides level message => ?_, fun provides bound passes level message told => ?_,
    fun provides ty => ?_, fun provides segment => ?_, fun provides segment => ?_,
    fun provides id s clean kept => ?_, fun provides id s default clean kept => ?_⟩,
    fun _ => Text.withoutNul_of_clean, fun _ => ⟨rfl, fun sunk => absurd rfl sunk⟩,
    fun modules unloading depth moves u v audible ran => ?_⟩
  · rw [call, Log.toHost_at here linked, HostTable.heard_of_provides based provides, provides]
    rfl
  · rw [Log.emit_at here linked bound (Facade.passes_of_debug passes told),
      HostTable.heard_of_provides based provides]
  · obtain ⟨s, u, ended, rfl⟩ := (typeVersion_ensures presents linked based provides ty).returns
    exact ⟨u, ended⟩
  · exact (addonPath_ensures presents linked based provides segment).returns
  · exact (userPath_ensures presents linked based provides segment).returns
  · obtain ⟨found, u, ended, rfl⟩ :=
      (check_string_ensures presents linked based provides clean kept).returns
    exact ⟨u, ended⟩
  · obtain ⟨v, u, ended, rfl⟩ :=
      (setting_string_ensures presents linked based provides clean kept default).returns
    exact ⟨u, ended⟩
  · have sounds := LoadedAddon.run_audible modules unloading depth moves u
    exact ((ensures_ok ran).mp sounds).returned audible

/-- A path with a NUL and a character of two bytes, from a host that takes no strings back, a warning to
it, and the facade after an addon was created for it. -/
theorem conveys_relayed_path :
    let table : HostTable := {
      provider := fun f => if f = .freeString then none else some .host }
    let host : Host := {
      answer := fun
        | _, .addonPath => "/ö\x00p"
        | _, q => q.neutral }
    let l : Loaded := { module := "m", libPath := .empty, host, hostTable := some table }
    let w : World Unit Unit := {
      memory := fun _ => (), loaded := [(⟨0, 0⟩, l)], facade := Facade.installed {}
      sink := some ⟨0, 0⟩ }
    (∃ u, call ⟨0, 0⟩ (.addonPath "lib") w = .ok "/öp/lib" u) ∧
      Log.emit .warn "a\x00b" w = .ok () (w.logged ⟨0, 0⟩ [(.warning, "ab")]) ∧
      ∃ v, LoadedAddon.run (Exports.env Modules.decoders false 1)
          [.load ⟨0, 0⟩ "decoders" host "decoders.so", .operate ⟨0, 0⟩ (.create "1.0")]
          { memory := fun _ => () } = .ok () v ∧
        v.sink = some ⟨0, 0⟩ ∧ v.facade.passes .debug := by
  intro table host l w
  have here : w.loaded.get? ⟨0, 0⟩ = some l := rfl
  have linked : l.hostTable = some table := rfl
  obtain ⟨conveys, -, silent, keeps⟩ := conveys_relayed (δ := Empty) here linked rfl
  obtain ⟨path, u, ended, joined⟩ := conveys.addonPath rfl "lib"
  have spelled := joined.nonempty 'l' ['i', 'b'] rfl
  have same : path = "/öp/lib" := String.toList_inj.mp (spelled.trans (by decide))
  subst same
  refine ⟨⟨u, ended⟩, ?_, ?_⟩
  · have cleaned : withoutNul "a\x00b" = "ab" := by decide
    have sent := conveys.emit rfl rfl rfl .warn "a\x00b" nofun
    rwa [cleaned] at sent
  · have created : endsWith (LoadedAddon.run (Exports.env Modules.decoders false 1)
        [.load ⟨0, 0⟩ "decoders" host "decoders.so", .operate ⟨0, 0⟩ (.create "1.0")])
        { memory := fun _ => () } (fun _ v => v.sink = some ⟨0, 0⟩) = true := by decide +kernel
    obtain ⟨_, v, ran, bound⟩ := exists_ended created
    have bound : v.sink = some ⟨0, 0⟩ := of_decide_eq_true bound
    have audible := keeps Modules.decoders false 1 _ _ v (silent _) ran
    exact ⟨v, ran, bound, audible.bound (by simp [bound])⟩

end HostAccess

end AddonBridge
