import Mathlib.Data.List.Induction
import AddonBridge.Record

/-!
# Records that handles share

A step makes a handle, writes a record through one, drops one, writes an external record, or changes
nothing: `step_does` says so once. From it follow, step by step and then over whole runs, where the
content of every record comes from: an owning handle has what was last written through it since it
was made, and an external record what was last written to it, directly or through a handle that
borrows it.
-/

namespace AddonBridge

/-- A handle through which something was last written, if anything was. What is written through a
handle that borrows goes to the external record. -/
def RecordHandle.settled {α : Type} {n : Nat} (last : Option α) : RecordHandle α n → RecordHandle α n
  | .owned r => .owned (last.getD r)
  | .borrowed i => .borrowed i

namespace RecordPool

variable {α : Type} {n : Nat} {b : RecordPool α n} {s : Step α n} {name : String} {i : Fin n}
  {h : RecordHandle α n} {r : α}

def read? (b : RecordPool α n) (name : String) : Option α :=
  (b.handles.get? name).map (·.get b.externals)

def borrowed? (b : RecordPool α n) (name : String) : Option (Fin n) :=
  (b.handles.get? name).bind (·.external?)

def made? (b : RecordPool α n) : Step α n → Option (String × RecordHandle α n)
  | .own name r => some (name, .owned r)
  | .copy name x => x.map fun i => (name, .owned (b.external i))
  | .borrow name x => x.map fun i => (name, .borrowed i)
  | .clone name target =>
    if name = target then none else (b.read? name).map fun r => (target, .owned r)
  | _ => none

/-- The name of the handle that a step writes through, with what it writes. -/
def written? (b : RecordPool α n) : Step α n → Option (String × α)
  | .assign name r => (b.read? name).map fun _ => (name, r)
  | .assignFrom name other =>
    if name = other then none
    else (b.read? other).bind fun r => (b.read? name).map fun _ => (name, r)
  | .edit name change => (b.read? name).map fun r => (name, change r)
  | _ => none

def through? (name : String) (b : RecordPool α n) (s : Step α n) : Option α :=
  (b.written? s).bind fun (other, r) => if other = name then some r else none

def direct? (i : Fin n) : Step α n → Option α
  | .setExternal x r => if x = some i then some r else none
  | _ => none

/-- What a step writes to an external record, directly or through a handle that borrows it. -/
def reaching? (i : Fin n) (b : RecordPool α n) (s : Step α n) : Option α :=
  (direct? i s).or ((b.written? s).bind fun (name, r) =>
    if b.borrowed? name = some i then some r else none)

/-- A step makes the handle of a name anew, or drops it. -/
def Renews (name : String) (b : RecordPool α n) (s : Step α n) : Prop :=
  s = .drop name ∨ ∃ h, b.made? s = some (name, h)

/-! ### Single steps -/

inductive Does (b : RecordPool α n) : Step α n → RecordPool α n → Prop where
  | makes {s : Step α n} {name : String} {h : RecordHandle α n} (made : b.made? s = some (name, h)) :
    Does b s { b with handles := b.handles.set name h }
  | writes {s : Step α n} {name : String} {r : α} {h : RecordHandle α n}
    (written : b.written? s = some (name, r)) (here : b.handles.get? name = some h) :
    Does b s (b.write name r h)
  | drops {name : String} : Does b (.drop name) { b with handles := b.handles.erase name }
  | sets {i : Fin n} {r : α} :
    Does b (.setExternal (some i) r) (b.setExternal i r)
  | leaves {s : Step α n} (made : b.made? s = none) (written : b.written? s = none)
    (dropped : ∀ name, s ≠ .drop name) (set : ∀ i r, s ≠ .setExternal (some i) r) : Does b s b

variable [ToString α]

section

variable (dropped : ∀ name, s ≠ .drop name) (set : ∀ i r, s ≠ .setExternal (some i) r)
include dropped set

theorem does_update {f : α → α} (does : (b.step s).1 = (b.update name f).1)
    (written : b.written? s = (b.read? name).map fun r => (name, f r)) (made : b.made? s = none) :
    b.Does s (b.step s).1 := by
  rw [does, update, withHandle]
  cases here : b.handles.get? name with
  | none => exact .leaves made (by rw [written, read?, here]; rfl) dropped set
  | some h => exact .writes (by rw [written, read?, here]; rfl) here

theorem does_answer {f : RecordHandle α n → Answer α}
    (does : (b.step s).1 = (b.withHandle name fun h => (b, f h)).1) (made : b.made? s = none)
    (written : b.written? s = none) : b.Does s (b.step s).1 := by
  rw [does, withHandle]
  split <;> exact .leaves made written dropped set

end

theorem clone_does (b : RecordPool α n) (name target : String) :
    b.Does (.clone name target) (b.step (.clone name target)).1 := by
  cases here : b.handles.get? name with
  | none =>
    have same : (b.step (.clone name target)).1 = b := by simp [step, withHandle, here]
    rw [same]
    exact .leaves (by simp [made?, read?, here]) rfl (by simp) (by simp)
  | some h =>
    by_cases self : name = target
    · subst self
      have same : (b.step (.clone name name)).1 = b := by simp [step, withHandle, here]
      rw [same]
      exact .leaves (by simp [made?]) rfl (by simp) (by simp)
    · have made : b.made? (.clone name target) = some (target, .owned (h.get b.externals)) := by
        simp [made?, self, read?, here]
      have set := Does.makes made
      simpa [step, withHandle, here, self] using set

theorem assignFrom_does (b : RecordPool α n) (name other : String) :
    b.Does (.assignFrom name other) (b.step (.assignFrom name other)).1 := by
  cases there : b.handles.get? other with
  | none =>
    have same : (b.step (.assignFrom name other)).1 = b := by simp [step, there]
    rw [same]
    exact .leaves rfl (by simp [written?, read?, there]) (by simp) (by simp)
  | some source =>
    by_cases self : name = other
    · have same : (b.step (.assignFrom name other)).1 = b := by
        rw [step, there]
        simp [self]
      rw [same]
      exact .leaves rfl (by simp [written?, self]) (by simp) (by simp)
    · have update : (b.step (.assignFrom name other)).1 =
          (b.update name fun _ => source.get b.externals).1 := by simp [step, there, self]
      have written : b.written? (.assignFrom name other) =
          (b.read? name).map fun _ => (name, source.get b.externals) := by
        simp [written?, self, read?, there]
      exact does_update (by simp) (by simp) update written rfl

theorem step_does (b : RecordPool α n) (s : Step α n) : b.Does s (b.step s).1 := by
  cases s with
  | own name r => exact .makes rfl
  | copy name x =>
    cases x with
    | none => exact .leaves rfl rfl (by simp) (by simp)
    | some i => exact .makes rfl
  | borrow name x =>
    cases x with
    | none => exact .leaves rfl rfl (by simp) (by simp)
    | some i => exact .makes rfl
  | setExternal x r =>
    cases x with
    | none => exact .leaves rfl rfl (by simp) (by simp)
    | some i => exact .sets
  | drop name => exact .drops
  | clone name target => exact clone_does b name target
  | assign name r => exact does_update (by simp) (by simp) rfl rfl rfl
  | assignFrom name other => exact assignFrom_does b name other
  | edit name change => exact does_update (by simp) (by simp) rfl rfl rfl
  | debug name => exact does_answer (by simp) (by simp) rfl rfl rfl
  | isExternal name x => exact does_answer (by simp) (by simp) rfl rfl rfl
  | get name => exact does_answer (by simp) (by simp) rfl rfl rfl

omit [ToString α] in
theorem written?_of_made {p : String × RecordHandle α n} (made : b.made? s = some p) :
    b.written? s = none := by
  cases s <;> first | rfl | cases made

omit [ToString α] in
theorem made?_of_written {p : String × α} (written : b.written? s = some p) : b.made? s = none := by
  cases s <;> first | rfl | cases written

omit [ToString α] in
theorem reaching?_of_written (written : b.written? s = some (name, r)) :
    b.reaching? i s = if b.borrowed? name = some i then some r else none := by
  have indirect : direct? i s = none := by cases s <;> first | rfl | cases written
  rw [reaching?, indirect, written]
  rfl

omit [ToString α] in
theorem reaching?_of_unwritten (written : b.written? s = none)
    (set : ∀ i r, s ≠ .setExternal (some i) r) : b.reaching? i s = none := by
  have indirect : direct? i s = none := by
    cases s with
    | setExternal x r => exact if_neg fun same => set i r (by rw [same])
    | _ => rfl
  rw [reaching?, indirect, written]
  rfl

theorem externals_step (b : RecordPool α n) (s : Step α n) (i : Fin n) :
    (b.step s).1.external i = (b.reaching? i s).getD (b.external i) := by
  have does := step_does b s
  generalize (b.step s).1 = u at does
  cases does with
  | makes made =>
    rw [reaching?_of_unwritten (written?_of_made made) (by rintro i r rfl; cases made)]
    rfl
  | @writes _ name r h written here =>
    rw [reaching?_of_written written, borrowed?, here]
    cases h with
    | owned r => rfl
    | borrowed j =>
      by_cases same : j = i
      · subst same
        simp [write, setExternal, external, RecordHandle.external?]
      · simp [write, setExternal, external, RecordHandle.external?, same, Fin.val_inj]
  | drops => rfl
  | @sets j r =>
    by_cases same : j = i
    · subst same
      simp [reaching?, direct?, written?, setExternal, external]
    · simp [reaching?, direct?, written?, setExternal, external, same, Fin.val_inj]
  | leaves _ written _ set =>
    rw [reaching?_of_unwritten written set]
    rfl

/-- What becomes of a handle that a step leaves in place. -/
theorem handle_step (kept : ¬b.Renews name s) :
    (b.step s).1.handles.get? name =
      (b.handles.get? name).map (·.settled (b.through? name s)) := by
  have unwritten (nothing : b.through? name s = none) :
      (b.handles.get? name).map (·.settled (b.through? name s)) = b.handles.get? name := by
    rw [nothing]
    cases b.handles.get? name with
    | none => rfl
    | some h => cases h <;> rfl
  have does := step_does b s
  generalize (b.step s).1 = u at does
  cases does with
  | @makes _ other h made =>
    rw [unwritten (by rw [through?, written?_of_made made]; rfl)]
    dsimp only
    rw [Assoc.get?_set, if_neg]
    rintro rfl
    exact kept (.inr ⟨h, made⟩)
  | @writes _ other r h written here =>
    rw [through?, written]
    by_cases same : other = name
    · subst same
      rw [here]
      cases h with
      | owned r => simp [write, Assoc.get?_set, RecordHandle.settled]
      | borrowed j => simpa [write, setExternal, RecordHandle.settled] using here
    · rw [← written, ← through?, unwritten (by simp [through?, written, same])]
      cases h with
      | owned r => simp [write, Assoc.get?_set, same]
      | borrowed j => rfl
  | @drops other =>
    rw [unwritten rfl]
    dsimp only
    rw [Assoc.get?_erase, if_neg]
    rintro rfl
    exact kept (.inl rfl)
  | sets => exact (unwritten rfl).symm
  | leaves _ written => exact (unwritten (by rw [through?, written]; rfl)).symm

theorem made_step (made : b.made? s = some (name, h)) :
    (b.step s).1.handles.get? name = some h := by
  have does := step_does b s
  generalize (b.step s).1 = u at does
  cases does with
  | makes made' =>
    cases made.symm.trans made'
    exact (Assoc.get?_set ..).trans (if_pos rfl)
  | writes written => rw [made?_of_written written] at made; cases made
  | drops => cases made
  | sets => cases made
  | leaves unmade => rw [unmade] at made; cases made

/-! ### Runs -/

def after (b : RecordPool α n) (steps : List (Step α n)) : RecordPool α n :=
  ((b.run steps).map (·.2)).getLast?.getD b

theorem after_nil (b : RecordPool α n) : b.after [] = b := rfl

theorem after_cons (b : RecordPool α n) (s : Step α n) (steps : List (Step α n)) :
    b.after (s :: steps) = (b.step s).1.after steps := by
  rw [after, run, List.map_cons, List.getLast?_cons]
  rfl

theorem after_append (b : RecordPool α n) (steps later : List (Step α n)) :
    b.after (steps ++ later) = (b.after steps).after later := by
  induction steps generalizing b with
  | nil => rfl
  | cons s steps ih => rw [List.cons_append, after_cons, after_cons, ih]

/-- The steps, each with the pool that it is done to. -/
def trail (b : RecordPool α n) : List (Step α n) → List (RecordPool α n × Step α n)
  | [] => []
  | s :: steps => (b, s) :: (b.step s).1.trail steps

/-- What steps write, one after the other, according to what each of them writes. -/
def writes (f : RecordPool α n → Step α n → Option α) (b : RecordPool α n)
    (steps : List (Step α n)) : List α :=
  (b.trail steps).filterMap fun p => f p.1 p.2

theorem writes_cons_last (f : RecordPool α n → Step α n → Option α) (b : RecordPool α n)
    (s : Step α n) (steps : List (Step α n)) :
    (b.writes f (s :: steps)).getLast? = ((b.step s).1.writes f steps).getLast?.or (f b s) := by
  rw [writes, trail, List.filterMap_cons]
  cases f b s with
  | none => exact (Option.or_none).symm
  | some r =>
    dsimp only
    rw [List.getLast?_cons]
    change some (((b.step s).1.writes f steps).getLast?.getD r) = _
    cases ((b.step s).1.writes f steps).getLast? <;> rfl

theorem externals_after (b : RecordPool α n) (steps : List (Step α n)) (i : Fin n) :
    (b.after steps).external i = (b.writes (reaching? i) steps).getLast?.getD (b.external i) := by
  induction steps generalizing b with
  | nil => rfl
  | cons s steps ih =>
    rw [after_cons, ih, externals_step, writes_cons_last, Option.getD_or]

omit [ToString α] in
theorem settled_settled (h : RecordHandle α n) (first last : Option α) :
    (h.settled first).settled last = h.settled (last.or first) := by
  cases h with
  | owned r => cases last <;> rfl
  | borrowed i => rfl

/-- A handle that is left in place has what was last written through it. -/
theorem handle_after (b : RecordPool α n) (steps : List (Step α n))
    (kept : ∀ p ∈ b.trail steps, ¬p.1.Renews name p.2) :
    (b.after steps).handles.get? name =
      (b.handles.get? name).map (·.settled (b.writes (through? name) steps).getLast?) := by
  induction steps generalizing b with
  | nil =>
    rw [after_nil]
    cases b.handles.get? name with
    | none => rfl
    | some h => cases h <;> rfl
  | cons s steps ih =>
    rw [after_cons, ih _ fun p member => kept p (List.mem_cons_of_mem _ member),
      handle_step (kept _ List.mem_cons_self), writes_cons_last, Option.map_map]
    congr 1
    funext h
    exact settled_settled h _ _

/-- A handle was there, or a step made it, before the last steps of a run, which left it in place. -/
inductive Since (b : RecordPool α n) (name : String) :
    List (Step α n) → RecordHandle α n → RecordPool α n → List (Step α n) → Prop where
  | start {steps : List (Step α n)} {h : RecordHandle α n} (here : b.handles.get? name = some h) :
    Since b name steps h b steps
  | made {pre post : List (Step α n)} {s : Step α n} {h : RecordHandle α n}
    (made : (b.after pre).made? s = some (name, h)) :
    Since b name (pre ++ s :: post) h (b.after (pre ++ [s])) post

theorem trail_append (b : RecordPool α n) (steps later : List (Step α n)) :
    b.trail (steps ++ later) = b.trail steps ++ (b.after steps).trail later := by
  induction steps generalizing b with
  | nil => rfl
  | cons s steps ih => rw [List.cons_append, trail, ih, trail, after_cons, List.cons_append]

theorem Since.snoc {steps post : List (Step α n)} {u : RecordPool α n}
    (since : b.Since name steps h u post) (s : Step α n) :
    b.Since name (steps ++ [s]) h u (post ++ [s]) := by
  cases since with
  | start here => exact .start here
  | made made =>
    rw [List.append_assoc, List.cons_append]
    exact .made made

theorem Since.after_eq {steps post : List (Step α n)} {u : RecordPool α n}
    (since : b.Since name steps h u post) : u.after post = b.after steps := by
  cases since with
  | start here => rfl
  | @made pre _ s _ made => rw [← after_append, List.append_assoc, List.singleton_append]

theorem Since.here {steps post : List (Step α n)} {u : RecordPool α n}
    (since : b.Since name steps h u post) : u.handles.get? name = some h := by
  cases since with
  | start here => exact here
  | made made =>
    rw [after_append, after_cons, after_nil]
    exact made_step made

/-- Every handle goes back to one that was there at the start or that a step made, and that was left
in place since. -/
theorem since_of_get? (b : RecordPool α n) (steps : List (Step α n))
    (here : (b.after steps).handles.get? name = some h) :
    ∃ h₀ u post, b.Since name steps h₀ u post ∧ ∀ p ∈ u.trail post, ¬p.1.Renews name p.2 := by
  induction steps using List.reverseRecOn generalizing h with
  | nil => exact ⟨h, b, [], .start here, nofun⟩
  | append_singleton steps s ih =>
    have last : b.after (steps ++ [s]) = ((b.after steps).step s).1 := by
      rw [after_append, after_cons, after_nil]
    rw [last] at here
    by_cases renewed : (b.after steps).Renews name s
    · rcases renewed with rfl | ⟨h₀, made⟩
      · change (Assoc.erase _ name).get? name = some h at here
        rw [Assoc.get?_erase, if_pos rfl] at here
        contradiction
      · exact ⟨h₀, _, [], .made made, nofun⟩
    · rw [handle_step renewed] at here
      obtain ⟨h₁, there, -⟩ := Option.map_eq_some_iff.mp here
      obtain ⟨h₀, u, post, since, kept⟩ := ih there
      refine ⟨h₀, u, post ++ [s], since.snoc s, fun p member => ?_⟩
      rw [trail_append, since.after_eq] at member
      rcases List.mem_append.mp member with earlier | final
      · exact kept p earlier
      · cases List.mem_singleton.mp final
        exact renewed

/-- Where the handles and the records of a pool come from. -/
structure Sharing (b : RecordPool α n) (steps : List (Step α n)) : Prop where
  /-- Whether a handle owns is as it was when the handle was made. An owning handle has what was last
  written through it since then. -/
  handle : ∀ name h, (b.after steps).handles.get? name = some h →
    ∃ h₀ u post, b.Since name steps h₀ u post ∧ (∀ p ∈ u.trail post, ¬p.1.Renews name p.2) ∧
      h.isOwned = h₀.isOwned ∧ h.external? = h₀.external? ∧
      ∀ r, h₀ = .owned r → h = .owned ((u.writes (through? name) post).getLast?.getD r)
  /-- Only a step that borrows makes a handle that does. -/
  made : ∀ s name h i, (b.after steps).made? s = some (name, h) →
    (h.external? = some i ↔ s = .borrow name (some i))
  /-- An external record has what was last written to it, directly or through a handle that borrows
  it. -/
  external : ∀ i : Fin n,
    (b.after steps).external i = (b.writes (reaching? i) steps).getLast?.getD (b.external i)
  read : ∀ name i, (b.after steps).borrowed? name = some i →
    (b.after steps).read? name = some ((b.after steps).external i)
  /-- What is written through a handle that borrows is what the external record and every other
  handle that borrows it show then. -/
  shown : ∀ s name r i, (b.after steps).written? s = some (name, r) →
    (b.after steps).borrowed? name = some i →
    ((b.after steps).step s).1.external i = r ∧
      ∀ other, (b.after steps).borrowed? other = some i →
        ((b.after steps).step s).1.read? other = some r
  dropped : ∀ name, ((b.after steps).step (.drop name)).1.externals = (b.after steps).externals ∧
    ∀ other, other ≠ name → ((b.after steps).step (.drop name)).1.handles.get? other =
      (b.after steps).handles.get? other
  /-- Nothing is made from a null pointer. -/
  null : ∀ name, (b.after steps).step (.copy name none) =
      (b.after steps, .panicked "Cannot copy a record from a null pointer") ∧
    (b.after steps).step (.borrow name none) =
      (b.after steps, .panicked "Cannot borrow a record from a null pointer")

omit [ToString α] in
theorem external?_made (made : b.made? s = some (name, h)) :
    h.external? = some i ↔ s = .borrow name (some i) := by
  have owns {r : α} : (RecordHandle.owned r : RecordHandle α n).external? = some i ↔ False :=
    ⟨nofun, False.elim⟩
  cases s with
  | own other r => cases made; simp [owns]
  | copy other x =>
    obtain ⟨j, -, same⟩ := Option.map_eq_some_iff.mp made
    cases same
    simp [owns]
  | borrow other x =>
    obtain ⟨j, rfl, same⟩ := Option.map_eq_some_iff.mp made
    cases same
    simp [RecordHandle.external?]
  | clone other target =>
    simp only [made?] at made
    split at made
    · cases made
    · obtain ⟨r, -, same⟩ := Option.map_eq_some_iff.mp made
      cases same
      simp [owns]
  | _ => cases made

omit [ToString α] in
theorem read?_of_borrowed (borrows : b.borrowed? name = some i) :
    b.read? name = some (b.external i) := by
  obtain ⟨h, here, lent⟩ := Option.bind_eq_some_iff.mp borrows
  rw [read?, here]
  cases h with
  | owned r => cases lent
  | borrowed j => cases lent; rfl

theorem borrowed?_of_written (written : b.written? s = some (name, r)) (other : String) :
    (b.step s).1.borrowed? other = b.borrowed? other := by
  have kept : ¬b.Renews other s := by
    rintro (rfl | ⟨h, made⟩)
    · cases written
    · rw [made?_of_written written] at made
      cases made
  rw [borrowed?, handle_step kept, borrowed?]
  cases b.handles.get? other with
  | none => rfl
  | some h => cases h <;> rfl

/-- Handles never turn from owning into borrowing or back, and what they and the external records hold
comes from writes through them or to them alone, however many handles borrow one record. -/
theorem run_shares (b : RecordPool α n) (steps : List (Step α n)) : b.Sharing steps where
  handle name h here := by
    obtain ⟨h₀, u, post, since, kept⟩ := since_of_get? b steps here
    have settled := handle_after u post kept
    rw [since.after_eq, here, since.here] at settled
    refine ⟨h₀, u, post, since, kept, ?_⟩
    cases h₀ with
    | owned r =>
      cases settled
      exact ⟨rfl, rfl, by rintro r ⟨⟩; rfl⟩
    | borrowed i =>
      cases settled
      exact ⟨rfl, rfl, nofun⟩
  made _ _ _ _ := external?_made
  external := externals_after b steps
  read _ _ := read?_of_borrowed
  shown s name r i written borrows := by
    have shows : ((b.after steps).step s).1.external i = r := by
      rw [externals_step, reaching?_of_written written, if_pos borrows]
      rfl
    refine ⟨shows, fun other lent => ?_⟩
    rw [read?_of_borrowed ((borrowed?_of_written written other).trans lent), shows]
  dropped name := by
    refine ⟨rfl, fun other different => ?_⟩
    exact (Assoc.get?_erase ..).trans (if_neg (Ne.symm different))
  null name := ⟨rfl, rfl⟩

/-- Two handles borrow one record, and a third has a copy of it. What is written through the first is
what the second reads and what stays when the first is dropped, and the copy is as it was. -/
theorem run_shares_borrowed :
    let b : Bench 1 := { externals := #v[{ uniqueId := 3 }] }
    let steps : List (Bench.Step 1) :=
      [.borrow "a" (some 0), .borrow "b" (some 0), .clone "a" "c", .setId "a" 7, .drop "a"]
    (b.after steps).external 0 = { uniqueId := 7 } ∧
      (b.after steps).read? "b" = some { uniqueId := 7 } ∧
      (b.after steps).handles.get? "c" = some (.owned { uniqueId := 3 }) := by
  intro b steps
  have shares := run_shares b steps
  have written : (b.after steps).external 0 = { uniqueId := 7 } := (shares.external 0).trans rfl
  exact ⟨written, (shares.read "b" 0 rfl).trans (congrArg some written), rfl⟩

end RecordPool

end AddonBridge
