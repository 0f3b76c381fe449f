import AddonBridge.Machine.LoadedAddon
import AddonBridge.Proofs.Seclusion

/-!
# Addons are independent

A host that drives several addons may take turns with them in any order. Addons that keep to themselves
do not notice: each gives the answers, gets the callbacks and asks its host the questions that it would
if its host drove no other, and it ends up the same. All that the others can change is where the records
go that its code logs through the sink.
-/

namespace AddonBridge

open Act

variable {σ ν δ α ι : Type} [Panics δ] {watch : Watch ν} {speaker : ν → Option String} {s : Site}
  {l : Loaded}

/-- A host that accepts a value for a setting once. -/
def Host.once : Host where
  answer
    | past, .setSetting id v => past.all (· ≠ .setSetting id v true)
    | _, q => q.neutral

theorem Host.once_deaf : Host.once.Deaf := by
  intro past q
  cases q with
  | setSetting id v =>
    simp only [Host.once, List.all_filter]
    congr 1
    funext x
    cases x <;> simp [HostQuery.isLog]
  | _ => rfl

/-- A host that accepts values for settings until a log record comes to it. -/
def Host.curt : Host where
  answer
    | past, .setSetting .. => past.all fun x => !x.isLog
    | _, q => q.neutral

namespace LoadedAddon

/-! ### What a host does with one addon -/

/-- Something that a host does with an addon: it loads it, does an operation with it, or asks it for
the versions of a type. -/
inductive Use where
  | load (host : Host) (libPath : String)
  | operate (operation : Operation)
  | typeVersion (ty : AddonType)
  | minVersion (ty : AddonType)
  | apiVersion (ty : AddonType)
  | isCompatible (ty : AddonType) (min max : Version)

inductive Reply where
  /-- No addon is loaded that could be used, or one is and none can be loaded. -/
  | unavailable
  | loaded (result : Except HostError Unit)
  | result (result : Except HostError Result)
  | text (text : String)
  | version (version : Except HostError Version)
  | flag (value : Bool)

/-- Uses an addon that is loaded. -/
def useLoaded (env : Env σ ν δ) (t : TableId) (l : Loaded) : Use → Act σ ν Reply
  | .load .. => return .unavailable
  | .operate operation => return .result (← perform env t l operation)
  | .typeVersion ty => return .text (← typeVersion env l ty)
  | .minVersion ty => return .text (← typeMinVersion env l ty)
  | .apiVersion ty => return .version (← typeApiVersion env l ty)
  | .isCompatible ty min max => return .flag (← isTypeCompatible env l ty min max)

/-- Uses the addon of a site, whose module it loads on the interface there. -/
def use (env : Env σ ν δ) (s : Site) (u : Use) : Act σ ν Reply := do
  match ← Act.loaded? s.table, u with
  | none, .load host libPath => return .loaded (← load s.table s.module host libPath)
  | none, _ => return .unavailable
  | some l, u => useLoaded env s.table l u

theorem load_confined {host : Host} {libPath : String} (deaf : watch.past = none → host.Deaf) :
    Secluded watch s (load s.table s.module host libPath : Act σ ν _) := by
  unfold load
  split
  · exact .pure True.intro
  · next path _ =>
    let l : Loaded := { module := s.module, libPath := path, host }
    refine .andThen (.modifies (fun v => { v with loaded := some l }) (fun _ => List.suffix_rfl)
      (fun w => ?_) (fun w o apart => ?_) fun v belongs => ⟨?_, belongs.context⟩) (.pure True.intro)
    · simp [World.view, Assoc.get?_set, l]
    · simp [World.view, Assoc.get?_set, apart.table]
    · rintro _ ⟨⟩
      exact ⟨rfl, by rintro _ _ ⟨⟩, deaf⟩

/-- A function that is registered for an addon is its own module's. -/
theorem registered_own (belongs : l.Belongs watch.past s) {f : AddonFunction} {m : String}
    (h : registered l f = .ok m) : m = s.module := by
  unfold registered at h
  split at h
  · split at h
    · next found =>
      cases h
      exact belongs.functions f _ found
    · contradiction
  · contradiction

section

variable {env : Env σ ν δ} (secludes : env.Secludes watch s) (belongs : l.Belongs watch.past s)
include secludes belongs

theorem call_confined {c : EntryCall} (keeps : c.KeepsTo s) :
    Secluded watch s (Exports.call env l.module c) := by
  rw [belongs.module]
  exact Exports.call_confined secludes keeps

/-- What is sent through a function that the addon registered. -/
theorem send_confined {f : AddonFunction} {rest : String → Except HostError (String × EntryCall)}
    (keeps : ∀ m m' c, rest m = .ok (m', c) → m' = m ∧ c.KeepsTo s) :
    Secluded watch s (send env (registered l f >>= rest)) := by
  unfold send
  split
  · next m c sent =>
    cases found : registered l f with
    | error e =>
      rw [found] at sent
      cases sent
    | ok m' =>
      rw [found] at sent
      obtain ⟨rfl, keeps⟩ := keeps m' m c sent
      obtain rfl := registered_own belongs found
      exact .answer (Exports.call_confined secludes keeps)
  · exact .pure True.intro

theorem destroy_confined : Secluded watch s (destroy env s.table l) := by
  refine .ite (fun _ => ?_) fun _ => .pure True.intro
  exact .andThen (.modifyLoaded fun _ belongs => ⟨belongs.module, belongs.functions, belongs.deaf⟩)
    (.map (call_confined secludes belongs (by rintro _ _ ⟨⟩)) fun _ _ => True.intro)

theorem perform_confined (operation : Operation) :
    Secluded watch s (perform env s.table l operation) := by
  cases operation with
  | create api =>
    refine .answer (.ite (fun _ => .pure True.intro) fun _ => ?_)
    split
    · exact .pure True.intro
    · refine .andThen (.modifyLoaded fun _ belongs => ⟨belongs.module, belongs.functions, belongs.deaf⟩)
        (.answer (call_confined secludes belongs ?_))
      rintro _ _ ⟨⟩
      rfl
  | status =>
    refine .answer (.answer (send_confined secludes belongs ?_))
    rintro m _ _ ⟨⟩
    exact ⟨rfl, by rintro _ _ ⟨⟩⟩
  | setSetting name value =>
    refine .answer (.answer (send_confined secludes belongs fun m m' c sent => ?_))
    revert sent
    cases encoded name <;> rintro ⟨⟩
    exact ⟨rfl, by rintro _ _ ⟨⟩⟩
  | createInstance ty id host version parent =>
    refine .answer (.answer (send_confined secludes belongs fun m m' c sent => ?_))
    revert sent
    cases encoded id <;> cases encoded version <;> rintro ⟨⟩
    exact ⟨rfl, by rintro _ _ ⟨⟩⟩
  | destroyInstance ty handle =>
    refine .answer (.answer (send_confined secludes belongs ?_))
    rintro m _ _ ⟨⟩
    exact ⟨rfl, by rintro _ _ ⟨⟩⟩
  | setFirstInstance h =>
    exact .andThen (.modifyLoaded fun _ belongs => ⟨belongs.module, belongs.functions, belongs.deaf⟩)
      (.pure True.intro)
  | destroy => exact .andThen (destroy_confined secludes belongs) (.pure True.intro)
  | drop =>
    refine .andThen (.andThen (destroy_confined secludes belongs)
      (.modifies (fun v => { v with loaded := none }) (fun _ => List.suffix_rfl) (fun w => ?_)
        (fun w o apart => ?_) fun v belongs => ⟨by rintro _ ⟨⟩, belongs.context⟩)) (.pure True.intro)
    · simp [World.view, Assoc.get?_erase]
    · simp [World.view, Assoc.get?_erase, apart.table]

theorem useLoaded_confined (u : Use) : Secluded watch s (useLoaded env s.table l u) := by
  have versions (c : EntryCall) (asks : ∀ t api, c ≠ .create t api) :
      Secluded watch s (Exports.call env l.module c) :=
    call_confined secludes belongs fun t api same => absurd same (asks _ _)
  have apiVersion (ty : AddonType) : Secluded watch s (typeApiVersion env l ty) :=
    .answer (.answer (versions _ (by simp)))
  cases u with
  | load host libPath => exact .pure True.intro
  | operate operation => exact .answer (perform_confined secludes belongs operation)
  | typeVersion ty => exact .answer (.answer (versions _ (by simp)))
  | minVersion ty => exact .answer (.answer (versions _ (by simp)))
  | apiVersion ty => exact .answer (apiVersion ty)
  | isCompatible ty min max =>
    refine .answer (.bind (apiVersion ty) fun v _ => ?_)
    cases v <;> exact .pure True.intro

end

theorem use_confined {env : Env σ ν δ} (secludes : env.Secludes watch s) {u : Use}
    (deaf : ∀ host libPath, u = .load host libPath → watch.past = none → host.Deaf) :
    Secluded watch s (use env s u) := by
  refine Confined.loaded?.bind fun found belongs => ?_
  split
  · exact .answer (load_confined (deaf _ _ rfl))
  · exact .pure True.intro
  · next l => exact useLoaded_confined secludes (belongs l rfl) u

/-! ### Taking turns -/

/-- The part of something that is one member's, in the order in which it came. -/
def part [DecidableEq ι] (i : ι) (turns : List (ι × α)) : List α :=
  (turns.filter (·.1 = i)).map (·.2)

/-- Uses the addons of several sites in turn. -/
def takeTurns (env : Env σ ν δ) (sites : ι → Site) (turns : List (ι × Use)) :
    Act σ ν (List (ι × Reply)) :=
  turns.mapM fun turn => (turn.1, ·) <$> use env (sites turn.1) turn.2

section

variable [DecidableEq ι] {env : Env σ ν δ} {sites : ι → Site} {w w' u v : World σ ν} {a : α}

theorem part_cons_self (i : ι) (turns : List (ι × α)) :
    part i ((i, a) :: turns) = a :: part i turns := by
  simp [part]

theorem part_cons_of_ne {i j : ι} (other : j ≠ i) (turns : List (ι × α)) :
    part i ((j, a) :: turns) = part i turns := by
  simp [part, other]

/-- Every site has its own things only, whatever host is behind its interface. -/
def Settled (speaker : ν → Option String) (sites : ι → Site) (w : World σ ν) : Prop :=
  -- Nothing is asked of a host if something is known of what it hears.
  ∀ i, (w.view speaker (sites i)).Belongs (some []) (sites i)

theorem uses_confined (secludes : env.Secludes watch s) {uses : List Use}
    (deaf : ∀ host libPath, .load host libPath ∈ uses → watch.past = none → host.Deaf) :
    Secluded watch s (uses.mapM (use env s)) := by
  induction uses with
  | nil => exact .pure True.intro
  | cons x uses ih =>
    rw [List.mapM_cons]
    have used : Secluded watch s (use env s x) := use_confined secludes fun host libPath same =>
      deaf host libPath (same ▸ List.mem_cons_self)
    have later := ih fun host libPath member => deaf host libPath (List.mem_cons_of_mem x member)
    exact used.bind fun _ _ => later.bind fun _ _ => .pure True.intro

/-- A turn of one addon is unnoticed by the others, whatever the hosts do. -/
theorem use_spares (secludes : ∀ i, env.Secludes ⟨speaker, some []⟩ (sites i))
    (apart : ∀ i j, i ≠ j → (sites i).Apart (sites j)) {j : ι} {x : Use} {reply : Reply}
    (settled : Settled speaker sites w) (ended : use env (sites j) x w = .ok reply v) :
    Settled speaker sites v ∧
      (∀ i, j ≠ i → v.view speaker (sites i) = w.view speaker (sites i)) ∧ w.trace <:+ v.trace := by
  have used : Secluded ⟨speaker, some []⟩ (sites j) (use env (sites j) x) :=
    use_confined (secludes j) (by rintro _ _ _ ⟨⟩)
  obtain ⟨-, turned⟩ := (ensures_ok ended).mp (used.turns w (settled j))
  have spares (i : ι) (other : j ≠ i) : v.view speaker (sites i) = w.view speaker (sites i) :=
    turned.spares _ (apart j i other)
  refine ⟨fun i => ?_, spares, turned.trace⟩
  by_cases own : j = i
  · subst own
    exact turned.belongs
  · rw [spares i own]
    exact settled i

omit [DecidableEq ι] in
theorem takeTurns_cons {j : ι} {x : Use} {turns : List (ι × Use)} {replies : List (ι × Reply)}
    (ended : takeTurns env sites ((j, x) :: turns) w = .ok replies u) :
    ∃ reply rest v, use env (sites j) x w = .ok reply v ∧
      takeTurns env sites turns v = .ok rest u ∧ replies = (j, reply) :: rest := by
  rw [takeTurns, List.mapM_cons] at ended
  obtain ⟨_, v, first, ended⟩ := bind_ok ended
  obtain ⟨rest, _, later, ended⟩ := bind_ok ended
  cases ended
  obtain ⟨reply, used, rfl⟩ := map_ok first
  exact ⟨reply, rest, v, used, later, rfl⟩

theorem takeTurns_grows (secludes : ∀ i, env.Secludes ⟨speaker, some []⟩ (sites i))
    (apart : ∀ i j, i ≠ j → (sites i).Apart (sites j)) {turns : List (ι × Use)}
    {replies : List (ι × Reply)} (settled : Settled speaker sites w)
    (ended : takeTurns env sites turns w = .ok replies u) : w.trace <:+ u.trace := by
  induction turns generalizing w replies with
  | nil =>
    cases ended
    exact List.suffix_rfl
  | cons turn turns ih =>
    obtain ⟨reply, rest, v, used, later, -⟩ := takeTurns_cons ended
    obtain ⟨settled, -, grown⟩ := use_spares secludes apart settled used
    exact grown.trans (ih settled later)

/-- What an addon does among others it does alone, if its host hears nothing more alone, or is deaf. -/
theorem takeTurns_part (secludes : ∀ past i, env.Secludes ⟨speaker, past⟩ (sites i))
    (apart : ∀ i j, i ≠ j → (sites i).Apart (sites j)) (past : Option (List HostQuery)) (i : ι)
    {turns : List (ι × Use)} {replies : List (ι × Reply)}
    (deaf : ∀ host libPath, .load host libPath ∈ part i turns → past = none → host.Deaf)
    (settled : Settled speaker sites w)
    (belongs : (w.view speaker (sites i)).Belongs past (sites i))
    (same : w'.view speaker (sites i) = w.view speaker (sites i))
    (ended : takeTurns env sites turns w = .ok replies u)
    (within : u.Within ⟨speaker, past⟩ (sites i))
    (stays : Stays ⟨speaker, past⟩ (sites i) ((part i turns).mapM (use env (sites i))) w') :
    ∃ u', (part i turns).mapM (use env (sites i)) w' = .ok (part i replies) u' ∧
      u'.view speaker (sites i) = u.view speaker (sites i) := by
  induction turns generalizing w w' replies with
  | nil =>
    cases ended
    exact ⟨w', rfl, same⟩
  | cons turn turns ih =>
    obtain ⟨j, x⟩ := turn
    obtain ⟨reply, rest, v, used, later, rfl⟩ := takeTurns_cons ended
    obtain ⟨settled', spares, -⟩ := use_spares (secludes _) apart settled used
    by_cases own : j = i
    · subst own
      rw [part_cons_self] at deaf stays
      rw [List.mapM_cons] at stays
      have first : Secluded ⟨speaker, past⟩ (sites j) (use env (sites j) x) :=
        use_confined (secludes past j) fun host libPath same =>
          deaf host libPath (same ▸ List.mem_cons_self)
      have deaf' (host : Host) (libPath : String) (member : .load host libPath ∈ part j turns) :=
        deaf host libPath (List.mem_cons_of_mem x member)
      have others : Secluded ⟨speaker, past⟩ (sites j) ((part j turns).mapM (use env (sites j))) :=
        uses_confined (secludes past j) deaf'
      have alike : w.Alike ⟨speaker, past⟩ (sites j) w' := ⟨same.symm, belongs⟩
      have rest (reply : Reply) : Secluded ⟨speaker, past⟩ (sites j) (do
          return reply :: (← (part j turns).mapM (use env (sites j)))) :=
        others.answer
      have grown := takeTurns_grows (secludes _) apart settled' later
      obtain ⟨v', used', alike', stays'⟩ :=
        first.proceeds (fun reply _ => rest reply) alike used (within.earlier grown) stays
      have stays'' : Stays ⟨speaker, past⟩ (sites j) ((part j turns).mapM (use env (sites j))) v' :=
        others.begun (B := fun _ => True) (fun _ _ => .pure True.intro) alike'.symm.belongs stays'
      obtain ⟨u', later', same''⟩ := ih deaf' settled' alike'.belongs alike'.view.symm later stays''
      refine ⟨u', ?_, same''⟩
      rw [part_cons_self, part_cons_self, List.mapM_cons, bind_of_ok used', bind_of_ok later']
      rfl
    · rw [part_cons_of_ne own] at deaf stays
      rw [part_cons_of_ne own, part_cons_of_ne own]
      exact ih deaf settled' (spares i own ▸ belongs) (same.trans (spares i own).symm) later stays

omit [DecidableEq ι] in
/-- Every site has its own things only, and its host is deaf if nothing is known of what it hears. -/
theorem belongs_of_settled (settled : Settled speaker sites w) {i : ι}
    {past : Option (List HostQuery)}
    (deaf : ∀ l, w.loaded.get? (sites i).table = some l → past = none → l.host.Deaf) :
    (w.view speaker (sites i)).Belongs past (sites i) where
  loaded l found :=
    have own := (settled i).loaded l found
    ⟨own.module, own.functions, deaf l found⟩
  context := (settled i).context

omit [DecidableEq ι] in
theorem settled_of_empty (unloaded : ∀ i, w.loaded.get? (sites i).table = none)
    (uncreated : ∀ i, w.contexts.get? (.module (sites i).module) = none) :
    Settled speaker sites w := fun i =>
  { loaded := fun l found => absurd (found.symm.trans (unloaded i)) (by simp)
    context := fun c found => absurd (found.symm.trans (uncreated i)) (by simp) }

end

/-- Log records do not change the answers of the host that an addon has at a site, nor of any that it is
given when it is loaded again. -/
def Unswayed (s : Site) (uses : List Use) (w : World σ ν) : Prop :=
  (∀ l, w.loaded.get? s.table = some l → l.host.Deaf) ∧
    ∀ host libPath, .load host libPath ∈ uses → host.Deaf

/-- Modules whose addons tell their host, the log and the trace when they are asked for their status. -/
def Modules.chatty : Modules Unit String where
  addon _ :=
    { build := fun _ => .done (.ok none)
      status := fun site =>
        .step (.host site.table (.setSetting "asked" (.bool true))) fun _ =>
          .step (.emit .info "asked") fun _ => .step (.note site.module) fun _ => .done .ok }

theorem Modules.chatty_keeps (s : Site) : (Modules.chatty.addon s.module).KeepsTo some s where
  build := True.intro
  created := True.intro
  status := ⟨rfl, fun _ => ⟨True.intro, fun _ => ⟨by rintro _ ⟨⟩; rfl, fun _ => True.intro⟩⟩⟩
  setSetting _ _ := True.intro
  factory _ := True.intro
  instanceFactory _ _ _ := True.intro
  instanceDestroyed _ _ _ := True.intro
  instanceDropped _ _ := True.intro
  dropped := True.intro

end LoadedAddon

end AddonBridge
