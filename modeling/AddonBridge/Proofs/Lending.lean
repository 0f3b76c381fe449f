import AddonBridge.Proofs.Sustaining

/-!
# Strings on loan

The helpers through which code reaches its host give every string back that they get, at once and
once only. `run_repays` says so of every run of a host and of all code that keeps to the helpers:
what the trace shows of strings are pairs of a loan and its return, and nothing is outstanding
wherever code goes on.
-/

namespace AddonBridge

open Act

variable {σ ν δ ε α : Type}

/-- A command that does not reach into the tables of an interface. -/
def Command.IsHelper : Command σ ν → Prop
  | .table .. | .patch .. => False
  | _ => True

/-! ### Loans in a trace -/

/-- A string of a host's went out or came back. -/
def Event.IsLoan : Event ν → Prop
  | .host _ (.shared _) | .host _ (.freed _) => True
  | _ => False

/-- Events, the latest first, in which every string that goes out comes back next. -/
inductive Paired : List (Event ν) → Prop where
  | nil : Paired []
  | other {e es} (other : ¬Event.IsLoan e) (earlier : Paired es) : Paired (e :: es)
  | loan {t s es} (earlier : Paired es) :
      Paired (.host t (.freed s) :: .host t (.shared s) :: es)

theorem Paired.append {es es' : List (Event ν)} (late : Paired es) (early : Paired es') :
    Paired (es ++ es') := by
  induction late with
  | nil => exact early
  | other other _ ih => exact .other other ih
  | loan _ ih => exact .loan ih

def Event.lends (t : TableId) : Event ν → Bool
  | .host s (.shared _) => s = t
  | _ => false

def Event.repays (t : TableId) : Event ν → Bool
  | .host s (.freed _) => s = t
  | _ => false

theorem Event.other_of_not_loan {e : Event ν} (other : ¬e.IsLoan) (t : TableId) :
    e.lends t = false ∧ e.repays t = false := by
  cases e with
  | host s q =>
    cases q with
    | shared | freed => exact absurd True.intro other
    | _ => exact ⟨rfl, rfl⟩
  | _ => exact ⟨rfl, rfl⟩

/-- How many strings of a host's went out. -/
def lent (t : TableId) (es : List (Event ν)) : Nat := es.countP (Event.lends t)

/-- How many strings of a host's came back. -/
def repaid (t : TableId) (es : List (Event ν)) : Nat := es.countP (Event.repays t)

/-- Every string that went out came back before anything else happened, so that none is out whenever
something else happens, and never more came back than went out. -/
structure Repaid (es : List (Event ν)) : Prop where
  paired : Paired es
  settled : ∀ t, lent t es = repaid t es
  even : ∀ later e earlier, es = later ++ e :: earlier → (∀ t s, e ≠ .host t (.freed s)) →
    ∀ t, lent t earlier = repaid t earlier
  covered : ∀ later earlier, es = later ++ earlier → ∀ t, repaid t earlier ≤ lent t earlier

theorem Paired.settled {es : List (Event ν)} (paired : Paired es) (t : TableId) :
    lent t es = repaid t es := by
  unfold lent repaid
  induction paired with
  | nil => rfl
  | other other _ ih =>
    obtain ⟨lends, repays⟩ := Event.other_of_not_loan other t
    rw [List.countP_cons, List.countP_cons, lends, repays, ih]
  | loan _ ih => simp [List.countP_cons, Event.lends, Event.repays, ih]

/-- What happened first is paired, or ends with a loan that is repaid next. -/
theorem Paired.split {es : List (Event ν)} (paired : Paired es) (later earlier : List (Event ν))
    (whole : es = later ++ earlier) :
    Paired earlier ∨ ∃ before t s rest, later = before ++ [.host t (.freed s)] ∧
      earlier = .host t (.shared s) :: rest ∧ Paired rest := by
  induction paired generalizing later with
  | nil =>
    obtain ⟨-, rfl⟩ := List.append_eq_nil_iff.mp whole.symm
    exact .inl .nil
  | other other paired ih =>
    cases later with
    | nil =>
      subst whole
      exact .inl (.other other paired)
    | cons e later =>
      obtain ⟨rfl, tail⟩ := List.cons.inj whole
      refine (ih later tail).imp_right ?_
      rintro ⟨before, t, s, rest, rfl, same⟩
      exact ⟨_ :: before, t, s, rest, rfl, same⟩
  | @loan t s es paired ih =>
    match later, whole with
    | [], whole =>
      subst whole
      exact .inl (.loan paired)
    | [e], whole =>
      obtain ⟨rfl, rfl⟩ := List.cons.inj whole
      exact .inr ⟨[], t, s, es, rfl, rfl, paired⟩
    | e :: e' :: later, whole =>
      obtain ⟨-, tail⟩ := List.cons.inj (List.cons.inj whole).2
      refine (ih later tail).imp_right ?_
      rintro ⟨before, t, s, rest, rfl, same⟩
      exact ⟨e :: e' :: before, t, s, rest, rfl, same⟩

theorem Paired.repaid {es : List (Event ν)} (paired : Paired es) : Repaid es where
  paired := paired
  settled := paired.settled
  even later e earlier whole free t := by
    have whole : es = (later ++ [e]) ++ earlier := by rw [whole, List.append_assoc]; rfl
    rcases paired.split _ earlier whole with early | ⟨before, t', s, _, last, -⟩
    · exact early.settled t
    · exact absurd (List.append_inj_right' last rfl) (by simpa using free t' s)
  covered later earlier whole t := by
    rcases paired.split later earlier whole with early | ⟨_, t', s, rest, -, rfl, early⟩
    · exact Nat.le_of_eq (early.settled t).symm
    · have even := early.settled t
      unfold lent AddonBridge.repaid at *
      rw [List.countP_cons, List.countP_cons, even]
      simp [Event.repays]

/-! ### Hosts whose strings are all back -/

namespace World

/-- Every interface has the table that it was loaded with, and no string is outstanding. -/
def Settled (w : World σ ν) : Prop :=
  ∀ t l, w.loaded.get? t = some l → l.supply = (0, some {})

/-- What happened between two worlds leaves every string repaid. -/
def Pairs (w u : World σ ν) : Prop := ∃ es, u.trace = es ++ w.trace ∧ Paired es

/-- Nothing is outstanding after what happened, if nothing was before it. -/
def Repays (w u : World σ ν) : Prop := w.Settled → u.Settled ∧ w.Pairs u

variable {w u v : World σ ν} {t : TableId} {s : CString}

theorem Pairs.trans (first : w.Pairs u) (second : u.Pairs v) : w.Pairs v := by
  obtain ⟨es, before, early⟩ := first
  obtain ⟨es', after, late⟩ := second
  exact ⟨es' ++ es, by rw [after, before, List.append_assoc], late.append early⟩

theorem Pairs.same (trace : u.trace = w.trace) : w.Pairs u := ⟨[], trace, .nil⟩

theorem Pairs.record {e : Event ν} (other : ¬e.IsLoan) :
    w.Pairs { w with trace := e :: w.trace } :=
  ⟨[e], rfl, .other other .nil⟩

theorem Repays.trans (first : w.Repays u) (second : u.Repays v) : w.Repays v := fun settled =>
  have ⟨between, early⟩ := first settled
  have ⟨after, late⟩ := second between
  ⟨after, early.trans late⟩

theorem Settled.modify (settled : w.Settled) {f : Loaded → Loaded}
    (same : ∀ l, Loaded.supply (f l) = l.supply) :
    Settled { w with loaded := w.loaded.modify t f } := by
  intro r l here
  dsimp only at here
  rw [Assoc.get?_modify] at here
  split at here
  · obtain ⟨l', before, rfl⟩ := Option.map_eq_some_iff.mp here
    rw [same]
    exact settled r l' before
  · exact settled r l here

/-- A string went out, and everything before was repaid. -/
structure Owes (t : TableId) (s : CString) (w u : World σ ν) : Prop where
  loaded : (u.loaded.get? t).isSome
  supply : ∀ r l, u.loaded.get? r = some l → l.supply = (if r = t then 1 else 0, some {})
  trace : ∃ es, u.trace = .host t (.shared s) :: (es ++ w.trace) ∧ Paired es

/-- A string went out if there is one, and everything before was repaid. -/
def Fetched (t : TableId) (w : World σ ν) (s : Option CString) (u : World σ ν) : Prop :=
  match s with
  | some s => w.Owes t s u
  | none => u.Settled ∧ w.Pairs u

end World

open World

variable {t : TableId} {w u : World σ ν} {s : CString}

theorem Log.toHost_pairs (t : TableId) (level : LogLevel) (message : String) (w : World σ ν) :
    Ensures (Log.toHost t level message) w (fun _ u => w.Repays u) fun _ _ => False := by
  obtain ⟨answer, records, -, sent⟩ := Log.toHost_logs t level message w
  refine (sent w rfl).mono (fun _ u ended settled => ?_) fun _ _ => id
  obtain ⟨-, rfl⟩ := ended
  refine ⟨settled, _, rfl, ?_⟩
  clear sent
  induction records with
  | nil => exact .nil
  | cons record records ih => exact .other id ih

abbrev Repaying : Change σ ν := Sustaining World.Repays

theorem World.Repays.sound : Act.Sound (World.Repays : World σ ν → World σ ν → Prop) where
  refl w settled := ⟨settled, .same rfl⟩
  trans _ _ _ := .trans
  aside w u loaded trace settled := by
    refine ⟨fun t l here => ?_, .same trace⟩
    rw [loaded] at here
    exact settled t l here
  record w e own settled := by
    refine ⟨settled, .record ?_⟩
    cases e with
    | host t q => exact absurd rfl (own t q)
    | _ => exact id
  relink w t f same settled := ⟨settled.modify same, .same rfl⟩
  toHost t level message w :=
    (Log.toHost_pairs t level message w).mono (fun _ _ => id) fun _ _ => False.elim

/-! ### Strings that go out and come back -/

namespace HostService

theorem answered_repays (q : Question) (answer : q.Answer) :
    ¬(Event.host (ν := ν) t (q.answered answer)).IsLoan := by
  cases q <;> exact id

theorem inquire_repays (q : Question) : Obeys Repaying (Act.inquire t q : Act σ ν _) := by
  intro w
  unfold Act.inquire
  rw [ensures_bind, ensures_get]
  cases w.loaded.get? t with
  | none => exact Repays.sound.refl w
  | some l => exact fun settled => ⟨settled, .record (answered_repays q _)⟩

theorem consult_repays {hasBase : Bool} (q : Question) :
    Obeys Repaying (consult t hasBase q : Act σ ν _) :=
  .ite (inquire_repays q) (.pure Repays.sound.law _)

theorem share_owes (text : String) (settled : u.Settled) (pairs : w.Pairs u)
    (loaded : (u.loaded.get? t).isSome) :
    Ensures (share t text) u (fun s v => w.Owes t s v) fun _ _ => False := by
  rw [share, ensures_bind, ensures_modifyLoaded, ensures_bind, ensures_record, ensures_pure]
  obtain ⟨es, trace, paired⟩ := pairs
  refine ⟨?_, fun r l here => ?_, es, by rw [← trace], paired⟩
  · dsimp only
    rwa [Assoc.get?_modify, if_pos rfl, Option.isSome_map]
  · dsimp only at here
    rw [Assoc.get?_modify] at here
    split at here
    · next same =>
      subst same
      obtain ⟨l', before, rfl⟩ := Option.map_eq_some_iff.mp here
      have before := settled t l' before
      obtain ⟨none, table⟩ := Prod.mk.inj before
      rw [if_pos rfl, Loaded.supply, none, table]
      rfl
    · next other =>
      rw [if_neg (Ne.symm other)]
      exact settled r l here

/-- The string that went out comes back. -/
theorem freeString_repays (owes : w.Owes t s u) :
    Ensures (freeString t true (some s)) u (fun _ v => v.Settled ∧ w.Pairs v) fun _ _ => False := by
  obtain ⟨loaded, supply, es, trace, paired⟩ := owes
  obtain ⟨l, here⟩ := Option.isSome_iff_exists.mp loaded
  rw [freeString, ensures_bind, ensures_loaded?, here, Bool.true_and, Option.isSome_some,
    if_pos rfl, ensures_bind, ensures_modifyLoaded, ensures_record]
  refine ⟨fun r l' after => ?_, .host t (.freed s) :: .host t (.shared s) :: es, ?_, .loan paired⟩
  · dsimp only at after
    rw [Assoc.get?_modify] at after
    split at after
    · next same =>
      subst same
      obtain ⟨l'', before, rfl⟩ := Option.map_eq_some_iff.mp after
      obtain ⟨one, table⟩ := Prod.mk.inj (supply t l'' before)
      rw [Loaded.supply, one, table, if_pos rfl]
      rfl
    · next other =>
      have kept := supply r l' after
      rwa [if_neg (Ne.symm other)] at kept
  · dsimp only
    rw [trace]
    rfl

/-- Only a host that is there answers. -/
theorem consult_ensures (q : Question) (settled : w.Settled) :
    Ensures (consult t true q) w (fun answer u =>
      u.Settled ∧ w.Pairs u ∧ (answer.isSome → (u.loaded.get? t).isSome)) fun _ _ => False := by
  rw [consult, if_pos rfl]
  cases here : w.loaded.get? t with
  | none =>
    rw [Ensures, Act.inquire_none here]
    exact ⟨settled, .same rfl, fun answered => absurd answered Bool.false_ne_true⟩
  | some l =>
    rw [Ensures, Act.inquire_at here]
    exact ⟨settled, .record (answered_repays q _), fun _ => by simp [here]⟩

theorem shareText_fetches (text : Option String) (settled : u.Settled) (pairs : w.Pairs u)
    (loaded : text.isSome → (u.loaded.get? t).isSome) :
    Ensures (shareText t text) u (fun s v => w.Fetched t s v) fun _ _ => False := by
  cases text with
  | none => exact ⟨settled, pairs⟩
  | some text => exact (ensures_map ..).mpr (share_owes text settled pairs (loaded rfl))

theorem typeVersion_fetches (ty : AddonType) (settled : w.Settled) :
    Ensures (typeVersion t true ty) w (fun s u => w.Fetched t s u) fun _ _ => False := by
  rw [typeVersion, ensures_bind]
  exact (consult_ensures _ settled).mono (fun text _ ⟨settled, pairs, loaded⟩ =>
    shareText_fetches text settled pairs loaded) fun _ _ => id

theorem addonPath_fetches (settled : w.Settled) :
    Ensures (addonPath t true) w (fun s u => w.Fetched t s u) fun _ _ => False := by
  rw [addonPath, ensures_bind]
  exact (consult_ensures _ settled).mono (fun text _ ⟨settled, pairs, loaded⟩ =>
    shareText_fetches text settled pairs loaded) fun _ _ => id

theorem userPath_fetches (settled : w.Settled) :
    Ensures (userPath t true) w (fun s u => w.Fetched t s u) fun _ _ => False := by
  rw [userPath, ensures_bind]
  exact (consult_ensures _ settled).mono (fun text _ ⟨settled, pairs, loaded⟩ =>
    shareText_fetches text settled pairs loaded) fun _ _ => id

theorem getString_fetches (key : Option CString) (settled : w.Settled) :
    Ensures (getString t true key true) w (fun s u => w.Fetched t s u) fun _ _ => False := by
  cases key with
  | none => exact ⟨settled, .same rfl⟩
  | some key =>
    rw [getString, getSetting, lookup, ensures_bind, ensures_bind, ensures_bind]
    refine (consult_ensures (.setting key.text) settled).mono ?_ fun _ _ => id
    rintro found u ⟨settled, pairs, loaded⟩
    rw [ensures_pure, ensures_pure]
    split
    · next s same =>
      refine (ensures_map ..).mpr (share_owes s settled pairs (loaded ?_))
      cases found with
      | none => contradiction
      | some v => rfl
    · exact ⟨settled, pairs⟩

end HostService

namespace HostAccess

theorem takeText_repays {s : Option CString} (fetched : w.Fetched t s u) :
    Ensures (takeText t {} s) u (fun _ v => v.Settled ∧ w.Pairs v) fun _ _ => False := by
  cases s with
  | none => exact fetched
  | some s =>
    rw [takeText, ensures_bind]
    exact HostService.freeString_repays fetched

theorem offered_ensures {f : HostFunction} {neutral : α} {k : HostTable → Provider → Act σ ν α}
    {Q : α → World σ ν → Prop} {E : Stop → World σ ν → Prop} (settled : w.Settled)
    (missing : Q neutral w) (present : Ensures (k {} .host) w Q E) :
    Ensures (offered t f neutral k) w Q E := by
  rw [offered, ensures_bind, ensures_hostTable?]
  cases here : w.loaded.get? t with
  | none => exact missing
  | some l =>
    have table : l.hostTable = some {} := congrArg Prod.snd (settled t l here)
    rw [Option.bind_some, table]
    exact present

theorem repays_of_settled {act : Act σ ν α} (h : ∀ w : World σ ν, w.Settled →
      Ensures act w (fun _ u => u.Settled ∧ w.Pairs u) fun _ _ => False) :
    Obeys Repaying act := by
  intro w
  by_cases settled : w.Settled
  · exact (h w settled).mono (fun _ _ ended _ => ended) fun _ _ => False.elim
  · exact (Ensures.trivial act).mono (fun _ _ _ before => absurd before settled)
      fun _ _ _ before => absurd before settled

/-- A text that a helper asks for is given back before the helper ends. -/
theorem offered_text_repays {f : HostFunction} {fetch : Act σ ν (Option CString)}
    (fetches : ∀ w : World σ ν, w.Settled →
      Ensures fetch w (fun s u => w.Fetched t s u) fun _ _ => False)
    {k : HostTable → Provider → Act σ ν String}
    (same : k {} .host = do takeText t {} (← fetch)) :
    Obeys Repaying (offered t f "" k) := by
  refine repays_of_settled fun w settled => offered_ensures settled ⟨settled, .same rfl⟩ ?_
  rw [same, ensures_bind]
  exact (fetches w settled).mono (fun _ _ fetched => takeText_repays fetched) fun _ _ => id

theorem settingId?_repays (id : String) :
    Obeys Repaying (settingId? id : Act σ ν _) := by
  unfold settingId?
  split
  · exact .pure Repays.sound.law _
  · exact .bind Repays.sound.law Repays.sound.emit fun _ => .pure Repays.sound.law _

/-- Talk that repays comes back with every string repaid. -/
theorem ensures_of_repays {act : Act σ ν α} (talks : Talks act)
    (repays : Obeys Repaying act) (settled : w.Settled) :
    Ensures act w (fun _ u => u.Settled ∧ w.Pairs u) fun _ _ => False :=
  ((repays w).and (talks.idles w)).mono (fun _ _ ended => ended.1 settled) fun _ _ => And.right

theorem checkString_repays (key : String) :
    Obeys Repaying (checkString t key : Act σ ν _) := by
  refine repays_of_settled fun w settled => offered_ensures settled ⟨settled, .same rfl⟩ ?_
  rw [ensures_bind]
  refine (ensures_of_repays (settingId?_carried (t := t) Talks.converses key)
    (settingId?_repays key) settled).mono (fun found u ended => ?_) fun _ _ => id
  cases found with
  | none => exact ended
  | some key =>
    rw [ensures_bind, fetchString, ensures_bind]
    refine (HostService.getString_fetches (some key) ended.1).mono (fun s v fetched => ?_)
      fun _ _ => id
    rw [ensures_pure, ensures_bind]
    refine (takeText_repays fetched).mono (fun _ x repaid => ?_) fun _ _ => id
    exact ⟨repaid.1, ended.2.trans repaid.2⟩

/-- What a helper does without strings of the host's: it looks an interface up, and goes on with what
is offered. -/
theorem plain_repays {f : HostFunction} {neutral : α} {k : HostTable → Provider → Act σ ν α}
    (h : ∀ table p, Obeys Repaying (k table p)) :
    Obeys Repaying (offered t f neutral k) := by
  refine .bind Repays.sound.law (.bind Repays.sound.law Repays.sound.loaded? fun _ =>
    .pure Repays.sound.law _) fun table => ?_
  cases table with
  | none => exact .pure Repays.sound.law _
  | some table =>
    dsimp only
    split
    · exact h table _
    · exact .bind Repays.sound.law Repays.sound.emit fun _ => .pure Repays.sound.law _

theorem getSetting_repays {hasBase hasOut : Bool} (kind : SettingKind) (key : Option CString) :
    Obeys Repaying (HostService.getSetting t hasBase kind key hasOut : Act σ ν _) := by
  refine .bind Repays.sound.law ?_ fun _ => .pure Repays.sound.law _
  cases key with
  | some key =>
    exact .bind Repays.sound.law (HostService.consult_repays _) fun _ => .pure Repays.sound.law _
  | none => exact .pure Repays.sound.law _

theorem storeSetting_repays {hasBase : Bool} (key : Option CString) (v : Setting) :
    Obeys Repaying (HostService.setSetting t hasBase key v : Act σ ν _) := by
  cases key with
  | some key =>
    exact .bind Repays.sound.law (HostService.consult_repays _) fun _ => .pure Repays.sound.law _
  | none => exact .pure Repays.sound.law _

/-- A helper goes on with an identifier that has no NUL, or without one. -/
theorem withId_repays {f : HostFunction} {neutral : α} {id : String}
    {k : HostTable → Option CString → Act σ ν α} (refused : ∀ table, Obeys Repaying (k table none))
    (h : ∀ table id, Obeys Repaying (k table (some id))) :
    Obeys Repaying (offered t f neutral fun table _ => settingId? id >>= k table) := by
  refine plain_repays fun table _ => .bind Repays.sound.law (settingId?_repays id) fun found => ?_
  cases found with
  | none => exact refused table
  | some id => exact h table id

theorem check_repays (kind : SettingKind) (id : String) :
    Obeys Repaying (check t kind id : Act σ ν _) := by
  cases kind with
  | string => exact .bind Repays.sound.law (checkString_repays id) fun _ => .pure Repays.sound.law _
  | bool | int | float =>
    exact withId_repays (fun _ => .pure Repays.sound.law _) fun _ _ => getSetting_repays _ _

theorem setSetting_repays (id : String) (v : Setting) :
    Obeys Repaying (setSetting t id v : Act σ ν _) := by
  cases v with
  | string s =>
    refine plain_repays fun _ _ => .bind Repays.sound.law (settingId?_repays id) fun id => ?_
    cases CString.ofText? s with
    | none =>
      cases id <;>
        exact .bind Repays.sound.law Repays.sound.emit fun _ => .pure Repays.sound.law _
    | some value =>
      cases id with
      | some id => exact storeSetting_repays (some id) (.string value.text)
      | none => exact .bind Repays.sound.law Repays.sound.emit fun _ => .pure Repays.sound.law _
  | bool | int | float =>
    exact withId_repays (fun _ => .pure Repays.sound.law _) fun _ _ => storeSetting_repays _ _

theorem call_repays (c : HostCall) : Obeys Repaying (call t c : Act σ ν _) := by
  cases c with
  | libPath => exact .bind Repays.sound.law Repays.sound.loaded? fun _ => .pure Repays.sound.law _
  | firstInstance =>
    exact .bind Repays.sound.law Repays.sound.loaded? fun _ => .pure Repays.sound.law _
  | typeVersion ty =>
    exact offered_text_repays (fun _ => HostService.typeVersion_fetches ty) rfl
  | addonPath segment =>
    exact .bind Repays.sound.law
      (offered_text_repays (fun _ => HostService.addonPath_fetches) rfl) fun _ =>
        .pure Repays.sound.law _
  | userPath segment =>
    exact .bind Repays.sound.law
      (offered_text_repays (fun _ => HostService.userPath_fetches) rfl) fun _ =>
        .pure Repays.sound.law _
  | log level message => exact Repays.sound.toHost t level message
  | check kind id => exact check_repays kind id
  | setting id default =>
    exact .bind Repays.sound.law (check_repays default.kind id) fun _ => .pure Repays.sound.law _
  | setSetting id v => exact setSetting_repays id v
  | interface name version =>
    refine plain_repays fun _ _ => ?_
    cases CString.ofText? name with
    | none => exact .pure Repays.sound.law _
    | some name =>
      cases CString.ofText? version with
      | none => exact .pure Repays.sound.law _
      | some version =>
        exact .bind Repays.sound.law (HostService.consult_repays _) fun _ =>
          .pure Repays.sound.law _

/-- Every helper gives back what it gets. -/
theorem call_ensures (t : TableId) (c : HostCall) (settled : w.Settled) :
    Ensures (call t c) w (fun _ u => u.Settled ∧ w.Pairs u) fun _ _ => False :=
  ensures_of_repays (call_talks c) (call_repays c) settled

end HostAccess

/-! ### Code -/

namespace Env

variable {env : Env σ ν δ}

theorem perform_repays (m : String) {c : Command σ ν} (helper : c.IsHelper)
    (own : ∀ call, c ≠ .call call) : Obeys Repaying (env.perform m c) := by
  match c with
  | .recall =>
    exact .bind Repays.sound.law (fun w => Repays.sound.refl w) fun _ => .pure Repays.sound.law _
  | .remember data => exact Repays.sound.modify (fun _ => rfl) fun _ => rfl
  | .note n => exact Repays.sound.event nofun
  | .emit level message => exact Repays.sound.emit
  | .install => exact Repays.sound.logger
  | .isCreated m =>
    exact .bind Repays.sound.law Repays.sound.isBusy fun _ =>
      .bind Repays.sound.law Repays.sound.context? fun _ => .pure Repays.sound.law _
  | .host t c => exact HostAccess.call_repays c
  | .table .. | .patch .. => exact helper.elim
  | .call c => exact absurd rfl (own c)

/-- A property holds of the world wherever a program asks for something or ends. -/
def Throughout (env : Env σ ν δ) (m : String) (P : World σ ν → Prop) :
    Program σ ν ε α → World σ ν → Prop
  | .done _, w | .panic _, w => P w
  | .step c next, w =>
    P w ∧ ∀ r u, env.perform m c w = .ok r u → Throughout env m P (next r) u

theorem throughout_settled {C : Command σ ν → Prop} (sustains : env.Sustains World.Repays C)
    (m : String) {q : Program σ ν ε α} (asks : q.Asks C) (settled : w.Settled) :
    env.Throughout m World.Settled q w := by
  induction q generalizing w with
  | done a => exact settled
  | panic e => exact settled
  | step c next ih =>
    refine ⟨settled, fun r u ended => ih r (asks.2 r) ?_⟩
    exact ((ensures_ok ended).mp (sustains.commands m c asks.1 w) settled).1

end Env

namespace LoadedAddon

theorem env_repays [Panics δ] {modules : Modules σ ν δ} (asks : modules.Ask Command.IsHelper) (unloading : Bool)
    (depth : Nat) :
    (Exports.env modules unloading depth).Sustains World.Repays Command.IsHelper :=
  Exports.env_sustains Repays.sound asks
    (fun _ m _ helper own => Env.perform_repays m helper own) unloading depth

theorem World.Pairs.repaid (pairs : w.Pairs u) : ∃ es, u.trace = es ++ w.trace ∧ Repaid es := by
  obtain ⟨es, trace, paired⟩ := pairs
  exact ⟨es, trace, paired.repaid⟩

/-- Whatever a host answers, whatever it and its addons do, and wherever a callback panics, if the code
keeps to the helpers then every string that goes out comes back before anything else happens,
whichever way the run ends: no string is outstanding between two moves, nor wherever code goes on, nor
when a host is asked for something, and the count never falls below zero. Each helper gives back what
it gets before it ends, and always ends. Calls of modules leave nothing outstanding where nothing was,
so a host may also call its modules while it is asked. -/
theorem run_repays [Panics δ] (modules : Modules σ ν δ) (asks : modules.Ask Command.IsHelper)
    (unloading : Bool) (depth : Nat) (moves : List Move) (w : World σ ν) (settled : w.Settled) :
    (∀ (u : World σ ν) t c, u.Settled → Ensures (HostAccess.call t c) u
      (fun _ v => v.Settled ∧ ∃ es, v.trace = es ++ u.trace ∧ Repaid es) fun _ _ => False) ∧
    (∀ {ε α : Type} (q : Program σ ν ε α) m (u : World σ ν), q.Asks Command.IsHelper → u.Settled →
      (Exports.env modules unloading depth).Throughout m World.Settled q u) ∧
    (∀ (u : World σ ν) m c, u.Settled →
      Ensures (Exports.call (Exports.env modules unloading depth) m c) u
        (fun _ v => v.Settled ∧ ∃ es, v.trace = es ++ u.trace ∧ Repaid es)
        fun stop v => stop = .aborted ∧ v.Settled ∧ ∃ es, v.trace = es ++ u.trace ∧ Repaid es) ∧
    Ensures (run (Exports.env modules unloading depth) moves) w
      (fun _ u => u.Settled ∧ ∃ es, u.trace = es ++ w.trace ∧ Repaid es)
      fun stop u => stop = .aborted ∧ u.Settled ∧ ∃ es, u.trace = es ++ w.trace ∧ Repaid es := by
  have sustains := env_repays asks unloading depth
  have repays {α : Type} {act : Act σ ν α} {u : World σ ν} (obeyed : Obeys Repaying act)
      (quiet : Quiet act) (before : u.Settled) :
      Ensures act u (fun _ v => v.Settled ∧ ∃ es, v.trace = es ++ u.trace ∧ Repaid es)
        fun stop v => stop = .aborted ∧ v.Settled ∧ ∃ es, v.trace = es ++ u.trace ∧ Repaid es := by
    have ends {v : World σ ν} (repays : u.Repays v) :
        v.Settled ∧ ∃ es, v.trace = es ++ u.trace ∧ Repaid es :=
      (repays before).imp id World.Pairs.repaid
    exact ((obeyed u).and (quiet u)).mono (fun _ v ended => ends ended.1)
      fun _ v stopped => ⟨stopped.2, ends stopped.1⟩
  refine ⟨fun u t c before => ?_, fun q m u asks before => ?_, fun u m c before => ?_, ?_⟩
  · exact (HostAccess.call_ensures t c before).mono
      (fun _ _ ended => ⟨ended.1, World.Pairs.repaid ended.2⟩) fun _ _ => id
  · exact Env.throughout_settled sustains m asks before
  · exact repays sustains.call (Exports.call_quiet (Exports.env_quiet modules unloading depth) m c)
      before
  · have ran := run_sustains sustains (fun u t before => ?_)
      (fun u t module libPath host before => ?_) moves
    · exact repays ran (run_quiet (Exports.env_quiet modules unloading depth) moves) settled
    · refine ⟨fun r l here => ?_, .same rfl⟩
      dsimp only at here
      rw [Assoc.get?_erase] at here
      split at here
      · contradiction
      · exact before r l here
    · refine ⟨fun r l here => ?_, .same rfl⟩
      dsimp only at here
      rw [Assoc.get?_set] at here
      split at here
      · cases here
        rfl
      · exact before r l here

end LoadedAddon

/-- Modules whose addons ask their host for strings, and panic over a setting. -/
def Modules.curious : Modules Unit Unit where
  addon _ :=
    { build := fun site => do
        let _ ← Program.ask (.host site.table (.userPath "cache"))
        return .ok none
      status := fun site =>
        .step (.host site.table (.check .string "name")) fun _ => .panic (.text "no name") }

theorem Modules.curious_asks : Modules.curious.Ask Command.IsHelper where
  addon m :=
    { build := fun _ => ⟨True.intro, fun _ => True.intro⟩
      created := fun _ => True.intro
      status := fun _ => ⟨True.intro, fun _ => True.intro⟩
      setSetting := fun _ _ _ => True.intro
      factory := fun _ _ => True.intro
      instanceFactory := fun _ _ _ _ => True.intro
      instanceDestroyed := fun _ _ _ _ => True.intro
      instanceDropped := fun _ _ _ => True.intro
      dropped := fun _ => True.intro }
  native m n found := by cases found

/-- A host whose settings are longer the more has come to it. -/
def Host.wavering : Host where
  answer
    | _, .userPath => "home"
    | past, .setting _ => some (.string (String.ofList (past.map fun _ => 'x')))
    | _, q => q.neutral

/-- The world of the curious addons before anything is loaded. -/
def World.curious : World Unit Unit := { memory := fun _ => () }

/-- An addon that gets a path and a setting, and panics over the setting, has given both back. -/
theorem LoadedAddon.run_repays_curious :
    Modules.curious.Ask Command.IsHelper ∧ World.curious.Settled ∧ ∃ moves u,
      run (Exports.env Modules.curious false 2) moves .curious = .ok () u ∧
        lent ⟨0, 0⟩ u.trace = 2 ∧ Repaid u.trace := by
  have settled : World.curious.Settled := nofun
  have ends : endsWith (run (Exports.env Modules.curious false 2)
      [.load ⟨0, 0⟩ "curious" .wavering "curious.so", .operate ⟨0, 0⟩ (.create "1.0"),
        .operate ⟨0, 0⟩ .status, .operate ⟨0, 0⟩ .drop]) .curious
      (fun _ u => lent ⟨0, 0⟩ u.trace == 2) := by
    decide +kernel
  obtain ⟨_, u, ran, two⟩ := exists_ended ends
  have repays {moves : List Move} {u : World Unit Unit}
      (ran : run (Exports.env Modules.curious false 2) moves .curious = .ok () u) :=
    (ensures_ok ran).mp
      (run_repays Modules.curious Modules.curious_asks false 2 moves .curious settled).2.2.2
  obtain ⟨-, es, trace, repaid⟩ := repays ran
  refine ⟨Modules.curious_asks, settled, _, u, ran, of_decide_eq_true two, ?_⟩
  rwa [trace, World.curious, List.append_nil]

end AddonBridge
