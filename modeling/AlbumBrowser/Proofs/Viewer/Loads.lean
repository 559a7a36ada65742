import AlbumBrowser.Proofs.Viewer.Change
import Mathlib.Data.List.Nodup

/-!
Loads that overlap. A load takes a ticket when it begins and brings a list, or fails, whenever it ends; loads
may end in any order. Whatever that order is, the list in place is the first one brought by the latest
ticket that has brought any, and so the same loads leave the same list. A load that fails or comes too
late leaves nothing behind.
-/

namespace AlbumBrowser.Viewer

variable {source : String} {zone : ViewerZone} {v w : Viewer} {ops : List Operation} {outcomes : List Outcome}

/-- A list of albums and the ticket of the load that brought it. -/
abbrev Delivery := Nat × List Album

/-- The number of tickets that an operation takes. -/
def Operation.tickets : Operation → Nat
  | .load _ | .beginLoad => 1
  | _ => 0

/-- The number of tickets that operations take. -/
def ticketsTaken : List Operation → Nat
  | [] => 0
  | op :: ops => op.tickets + ticketsTaken ops

theorem Operation.tickets_of_concern {op : Operation} (hk : op.concern ≠ .loading) : op.tickets = 0 := by
  cases op with
  | load | beginLoad | finishLoad => exact absurd rfl hk
  | _ => rfl

/-- The list that an operation brings, if it ends a load with success; `issued` tickets were taken before. -/
def Operation.delivery? (issued : Nat) : Operation → Option Delivery
  | .load fetched => fetched.toOption.map (issued + 1, ·)
  | .finishLoad ticket fetched => fetched.toOption.map (ticket, ·)
  | _ => none

theorem Operation.delivery?_of_concern {op : Operation} (hk : op.concern ≠ .loading) (issued : Nat) :
    op.delivery? issued = none := by
  cases op with
  | load | beginLoad | finishLoad => exact absurd rfl hk
  | _ => rfl

/-- The lists that a run brings, in the order in which they arrive. -/
def deliveries (issued : Nat) : List Operation → List Delivery
  | [] => []
  | op :: ops => (op.delivery? issued).toList ++ deliveries (issued + op.tickets) ops

/-- Every load is finished with a ticket that an earlier operation of the run gave out. -/
def TicketsHeld (ops : List Operation) (outcomes : List Outcome) : Prop :=
  ∀ (i : Nat) ticket fetched, ops[i]? = some (Operation.finishLoad ticket fetched) →
    ∃ j < i, outcomes[j]? = some (Outcome.ticket ticket)

/-- The first delivery of the latest ticket among some deliveries. -/
def IsLatest (arrived : List Delivery) (latest : Delivery) : Prop :=
  ∃ before after, arrived = before ++ latest :: after ∧
    (∀ d ∈ before, d.1 < latest.1) ∧ ∀ d ∈ after, d.1 ≤ latest.1

variable {arrived : List Delivery} {latest : Delivery}

theorem IsLatest.le (h : IsLatest arrived latest) {d : Delivery} (hd : d ∈ arrived) : d.1 ≤ latest.1 := by
  obtain ⟨before, after, rfl, hbefore, hafter⟩ := h
  rcases List.mem_append.mp hd with hd | hd
  · exact Nat.le_of_lt (hbefore d hd)
  · rcases List.mem_cons.mp hd with rfl | hd
    · exact Nat.le_refl _
    · exact hafter d hd

theorem IsLatest.mem (h : IsLatest arrived latest) : latest ∈ arrived := by
  obtain ⟨before, after, rfl, -, -⟩ := h
  exact List.mem_append_right _ List.mem_cons_self

/-- With one delivery for each ticket, the order of arrival does not matter. -/
theorem IsLatest.eq_of_perm {arrived' : List Delivery} {latest' : Delivery} (h : IsLatest arrived latest)
    (h' : IsLatest arrived' latest') (hperm : arrived.Perm arrived')
    (honce : (arrived.map Prod.fst).Nodup) : latest = latest' := by
  have hle := h'.le (hperm.mem_iff.mp h.mem)
  have hge := h.le (hperm.mem_iff.mpr h'.mem)
  exact List.inj_on_of_nodup_map honce h.mem (hperm.mem_iff.mpr h'.mem) (Nat.le_antisymm hle hge)

/-- The list in place and its ticket are those of the latest delivery; before any, both are as in a new
viewer. -/
def Settled (arrived : List Delivery) (v : Viewer) : Prop :=
  arrived = [] ∧ v.applied = 0 ∧ v.gallery.albums = [] ∨ IsLatest arrived (v.applied, v.gallery.albums)

/-- Two viewers to which the same lists were brought, each under a ticket of its own, have the same list in
place. -/
theorem Settled.albums_eq_of_perm {arrived' : List Delivery} (h : Settled arrived v) (h' : Settled arrived' w)
    (hperm : arrived.Perm arrived') (honce : (arrived.map Prod.fst).Nodup) :
    w.gallery.albums = v.gallery.albums := by
  rcases h with ⟨rfl, -, halbums⟩ | hlatest
  · rcases h' with ⟨-, -, halbums'⟩ | hlatest'
    · rw [halbums, halbums']
    · rw [← hperm.nil_eq] at hlatest'
      exact absurd hlatest'.mem List.not_mem_nil
  · rcases h' with ⟨rfl, -, -⟩ | hlatest'
    · rw [hperm.eq_nil] at hlatest
      exact absurd hlatest.mem List.not_mem_nil
    · have heq := hlatest.eq_of_perm hlatest' hperm honce
      exact (congrArg Prod.snd heq).symm

/-- A delivery takes the place of the list there is if its ticket is later, and is dropped if not. -/
theorem Settled.finishLoad (h : Settled arrived v) {ticket : Nat} (hticket : 0 < ticket) (albums : List Album) :
    Settled (arrived ++ [(ticket, albums)]) (v.finishLoad ticket (.ok albums)).2 := by
  right
  rcases Nat.lt_or_ge v.applied ticket with hnew | hold
  · rw [finishLoad_newer hnew]
    refine ⟨arrived, [], rfl, ?_, fun d hd => absurd hd List.not_mem_nil⟩
    intro d hd
    rcases h with ⟨rfl, -, -⟩ | hlatest
    · exact absurd hd List.not_mem_nil
    · exact Nat.lt_of_le_of_lt (hlatest.le hd) hnew
  · rw [finishLoad_stale hold]
    rcases h with ⟨-, hzero, -⟩ | ⟨before, after, rfl, hbefore, hafter⟩
    · -- No ticket is stale before the first delivery: tickets start at one.
      exact absurd hticket (by omega)
    · refine ⟨before, after ++ [(ticket, albums)], by simp, hbefore, ?_⟩
      intro d hd
      rcases List.mem_append.mp hd with hd | hd
      · exact hafter d hd
      · rw [List.mem_singleton.mp hd]
        exact hold

/-! ### Runs -/

/-- Operations that are not about loading leave the loaded list and both counters alone. -/
theorem Changes.loads_eq {k : Concern} (hk : k ≠ .loading) (h : Changes k v w) :
    w.gallery.albums = v.gallery.albums ∧ w.issued = v.issued ∧ w.applied = v.applied := by
  refine h.invariant
    (P := fun u => u.gallery.albums = v.gallery.albums ∧ u.issued = v.issued ∧ u.applied = v.applied)
    ?_ ⟨rfl, rfl, rfl⟩
  rintro u u' hchange ⟨halbums, hissued, happlied⟩
  cases hchange with
  | issued | installed => exact absurd rfl hk
  | filtered c visible => exact ⟨halbums, hissued, happlied⟩
  | browsed op hop => exact ⟨(Gallery.lists_of_browses hop u.gallery).1.trans halbums, hissued, happlied⟩

/-- Nothing but a later list takes the place of the one there is. -/
theorem Changes.applied_le {k : Concern} (h : Changes k v w) : v.applied ≤ w.applied := by
  refine h.invariant (P := fun u => v.applied ≤ u.applied) ?_ (Nat.le_refl _)
  rintro u u' hchange hle
  cases hchange with
  | installed ticket albums hnew => exact Nat.le_trans hle (Nat.le_of_lt hnew)
  | issued | filtered | browsed => exact hle

theorem issued_finishLoad (v : Viewer) (ticket : Nat) (fetched : Fetched) :
    (v.finishLoad ticket fetched).2.issued = v.issued := by
  rcases v.finishLoad_cases ticket fetched with ⟨-, hsame⟩ | ⟨albums, -, -, hload⟩
  · rw [hsame]
  · rw [hload]

theorem applied_finishLoad_le {ticket : Nat} (hv : v.applied ≤ v.issued) (hticket : ticket ≤ v.issued)
    (fetched : Fetched) : (v.finishLoad ticket fetched).2.applied ≤ v.issued := by
  rcases v.finishLoad_cases ticket fetched with ⟨-, hsame⟩ | ⟨albums, -, -, hload⟩
  · rw [hsame]
    exact hv
  · rw [hload]
    exact hticket

theorem issued_step {op : Operation} {outcome : Outcome} (h : v.step op = some (outcome, w)) :
    w.issued = v.issued + op.tickets := by
  by_cases hk : op.concern = .loading
  · cases op with
    | load fetched =>
        cases h
        exact issued_finishLoad _ _ fetched
    | beginLoad =>
        cases h
        rfl
    | finishLoad ticket fetched =>
        cases h
        exact issued_finishLoad v ticket fetched
    | _ => cases hk
  · rw [((step_changes h).loads_eq hk).2.1, Operation.tickets_of_concern hk]
    rfl

/-- What has arrived is settled, and no list has a ticket that was not given out. -/
def Loaded (arrived : List Delivery) (v : Viewer) : Prop := Settled arrived v ∧ v.applied ≤ v.issued

theorem Loaded.finishLoad (h : Loaded arrived v) {ticket : Nat} (hpos : 0 < ticket) (hle : ticket ≤ v.issued)
    (fetched : Fetched) :
    Loaded (arrived ++ (fetched.toOption.map (ticket, ·)).toList) (v.finishLoad ticket fetched).2 := by
  constructor
  · cases fetched with
    | error e =>
        change Settled (arrived ++ []) v
        rw [List.append_nil]
        exact h.1
    | ok albums => exact h.1.finishLoad hpos albums
  · rw [issued_finishLoad]
    exact applied_finishLoad_le h.2 hle fetched

/-- A step accounts for what it brings, as long as it finishes no load with a ticket that was not given out. -/
theorem Loaded.step {op : Operation} {outcome : Outcome} (h : v.step op = some (outcome, w))
    (hv : Loaded arrived v)
    (hticket : ∀ ticket fetched, op = .finishLoad ticket fetched → 0 < ticket ∧ ticket ≤ v.issued) :
    Loaded (arrived ++ (op.delivery? v.issued).toList) w := by
  have hbegun : Loaded arrived v.beginLoad.2 := ⟨hv.1, Nat.le_succ_of_le hv.2⟩
  by_cases hk : op.concern = .loading
  · cases op with
    | load fetched =>
        cases h
        exact hbegun.finishLoad (Nat.succ_pos v.issued) (Nat.le_refl _) fetched
    | beginLoad =>
        cases h
        change Loaded (arrived ++ []) v.beginLoad.2
        rw [List.append_nil]
        exact hbegun
    | finishLoad ticket fetched =>
        cases h
        obtain ⟨hpos, hle⟩ := hticket ticket fetched rfl
        exact hv.finishLoad hpos hle fetched
    | _ => cases hk
  · obtain ⟨halbums, hissued, happlied⟩ := (step_changes h).loads_eq hk
    rw [Operation.delivery?_of_concern hk, Option.toList_none, List.append_nil]
    rw [Loaded, Settled, halbums, hissued, happlied]
    exact hv

theorem ticketsTaken_take_succ (op : Operation) (ops : List Operation) (i : Nat) :
    ticketsTaken ((op :: ops).take (i + 1)) = op.tickets + ticketsTaken (ops.take i) := rfl

/-- A run accounts for all that it brings. -/
theorem Loaded.run (h : v.run ops = some (outcomes, w)) (hv : Loaded arrived v)
    (htickets : ∀ i ticket fetched, ops[i]? = some (Operation.finishLoad ticket fetched) →
      0 < ticket ∧ ticket ≤ v.issued + ticketsTaken (ops.take i)) :
    Loaded (arrived ++ deliveries v.issued ops) w := by
  induction ops generalizing v arrived outcomes with
  | nil =>
      cases h
      rw [deliveries, List.append_nil]
      exact hv
  | cons op ops ih =>
      obtain ⟨outcome, u, rest, hop, hrun, -⟩ := run_cons_eq_some_iff.mp h
      have hstep := hv.step hop fun ticket fetched heq => htickets 0 ticket fetched (congrArg some heq)
      rw [deliveries, ← List.append_assoc, ← issued_step hop]
      refine ih hrun hstep ?_
      intro i ticket fetched hi
      have hbound := htickets (i + 1) ticket fetched hi
      rw [ticketsTaken_take_succ] at hbound
      rw [issued_step hop]
      omega

theorem issued_run (h : v.run ops = some (outcomes, w)) : w.issued = v.issued + ticketsTaken ops := by
  induction ops generalizing v outcomes with
  | nil =>
      cases h
      rfl
  | cons op ops ih =>
      obtain ⟨outcome, u, rest, hop, hrun, -⟩ := run_cons_eq_some_iff.mp h
      rw [ih hrun, issued_step hop, ticketsTaken, Nat.add_assoc]

theorem step_ticket {op : Operation} {ticket : Nat} (h : v.step op = some (.ticket ticket, w)) :
    ticket = v.issued + 1 ∧ op.tickets = 1 := by
  cases op with
  | beginLoad =>
      cases h
      exact ⟨rfl, rfl⟩
  | load | finishLoad | criteria | close => cases h
  | _ =>
      obtain ⟨_, -, heq⟩ := Option.map_eq_some_iff.mp h
      cases heq

/-- A ticket that was given out is among those taken before any later operation. -/
theorem ticket_le_of_run (h : v.run ops = some (outcomes, w)) {i j ticket : Nat}
    (hj : outcomes[j]? = some (Outcome.ticket ticket)) (hlt : j < i) :
    0 < ticket ∧ ticket ≤ v.issued + ticketsTaken (ops.take i) := by
  -- Both places are counted from the operation in front, so they move together.
  induction ops generalizing v outcomes i j with
  | nil =>
      cases h
      cases hj
  | cons op ops ih =>
      obtain ⟨outcome, u, rest, hop, hrun, rfl⟩ := run_cons_eq_some_iff.mp h
      obtain ⟨i, rfl⟩ := Nat.exists_eq_add_one_of_ne_zero (Nat.ne_zero_of_lt hlt)
      rw [ticketsTaken_take_succ]
      cases j with
      | zero =>
          cases hj
          obtain ⟨rfl, htaken⟩ := step_ticket hop
          omega
      | succ j =>
          have hrest := ih hrun hj (Nat.lt_of_succ_lt_succ hlt)
          rw [issued_step hop] at hrest
          omega

theorem loaded_of_run (h : (fresh source zone).run ops = some (outcomes, w))
    (hheld : TicketsHeld ops outcomes) : Loaded (deliveries 0 ops) w := by
  have hfresh : Loaded [] (fresh source zone) := ⟨Or.inl ⟨rfl, rfl, rfl⟩, Nat.le_refl 0⟩
  refine hfresh.run h ?_
  intro i ticket fetched hi
  obtain ⟨j, hlt, hj⟩ := hheld i ticket fetched hi
  exact ticket_le_of_run h hj hlt

/-- Both counters are words of 64 bits as long as fewer loads have begun than there are words. -/
theorem counters_lt_size (h : (fresh source zone).run ops = some (outcomes, w)) (hheld : TicketsHeld ops outcomes)
    (hfew : ticketsTaken ops < UInt64.size) : w.issued < UInt64.size ∧ w.applied < UInt64.size := by
  have hissued : w.issued = ticketsTaken ops := by rw [issued_run h, fresh, Nat.zero_add]
  rw [← hissued] at hfew
  exact ⟨hfew, Nat.lt_of_le_of_lt (loaded_of_run h hheld).2 hfew⟩

/-- A load that does not say that it was applied has changed nothing. -/
theorem finishLoad_eq_self {ticket : Nat} {fetched : Fetched}
    (h : ∀ count, (v.finishLoad ticket fetched).1 ≠ .ok (.applied count)) :
    (v.finishLoad ticket fetched).2 = v := by
  rcases v.finishLoad_cases ticket fetched with ⟨-, hsame⟩ | ⟨albums, -, -, hload⟩
  · exact hsame
  · have hsays := congrArg Prod.fst hload
    exact absurd hsays (h albums.length)

/-- A load that is made in one go takes a ticket that nothing can have overtaken. -/
theorem reload_ok (h : v.applied ≤ v.issued) (albums : List Album) :
    v.reload (.ok albums) = (.ok (.applied albums.length),
      { v with
        gallery := v.gallery.replace albums, criteria := Criteria.anything,
        issued := v.issued + 1, applied := v.issued + 1 }) := by
  have hnew : v.beginLoad.2.applied < v.issued + 1 := Nat.lt_succ_of_le h
  exact finishLoad_newer hnew albums

/-- Overlapping loads settle on one list. When every load is finished with a ticket that was given out, the
installed ticket is never beyond the issued ones, and once a list has arrived the one in place is the first
list of the latest ticket that has brought any; so runs in which the same loads end, each once, in
whatever order and among whatever else, end with the same list. A load that fails or is stale changes
nothing, and a load that is made in one go and succeeds is never stale and tells the length of its list. -/
theorem loads_settle (h : (fresh source zone).run ops = some (outcomes, w)) (hheld : TicketsHeld ops outcomes) :
    w.applied ≤ w.issued ∧
    (deliveries 0 ops ≠ [] → IsLatest (deliveries 0 ops) (w.applied, w.gallery.albums)) ∧
    (∀ source' zone' ops' outcomes' w', (fresh source' zone').run ops' = some (outcomes', w') →
      TicketsHeld ops' outcomes' → (deliveries 0 ops).Perm (deliveries 0 ops') →
      ((deliveries 0 ops).map Prod.fst).Nodup → w'.gallery.albums = w.gallery.albums) ∧
    (∀ ticket fetched, (∀ count, (w.finishLoad ticket fetched).1 ≠ .ok (.applied count)) →
      (w.finishLoad ticket fetched).2 = w) ∧
    ∀ albums, (w.reload (.ok albums)).1 = .ok (.applied albums.length) ∧
      (w.load (.ok albums)).1 = .ok albums.length := by
  obtain ⟨hsettled, hle⟩ := loaded_of_run h hheld
  refine ⟨hle, ?_, ?_, fun _ _ => finishLoad_eq_self, ?_⟩
  · intro hne
    rcases hsettled with ⟨hnone, -, -⟩ | hlatest
    · exact absurd hnone hne
    · exact hlatest
  · intro source' zone' ops' outcomes' w' h' hheld' hperm honce
    exact hsettled.albums_eq_of_perm (loaded_of_run h' hheld').1 hperm honce
  · intro albums
    rw [load, reload_ok hle]
    exact ⟨rfl, rfl⟩

theorem loads_settle_after_sampleRun : ∃ outcomes w,
    (fresh "albums.json" Zone.utc).run sampleRun = some (outcomes, w) ∧ TicketsHeld sampleRun outcomes ∧
    w.gallery.albums.map (·.id) = ["1", "2"] ∧
    w.applied ≤ w.issued ∧
    (deliveries 0 sampleRun ≠ [] → IsLatest (deliveries 0 sampleRun) (w.applied, w.gallery.albums)) ∧
    (∀ source' zone' ops' outcomes' w', (fresh source' zone').run ops' = some (outcomes', w') →
      TicketsHeld ops' outcomes' → (deliveries 0 sampleRun).Perm (deliveries 0 ops') →
      ((deliveries 0 sampleRun).map Prod.fst).Nodup → w'.gallery.albums = w.gallery.albums) ∧
    (∀ ticket fetched, (∀ count, (w.finishLoad ticket fetched).1 ≠ .ok (.applied count)) →
      (w.finishLoad ticket fetched).2 = w) ∧
    ∀ albums, (w.reload (.ok albums)).1 = .ok (.applied albums.length) ∧
      (w.load (.ok albums)).1 = .ok albums.length := by
  have hrun : ∃ outcomes w, (fresh "albums.json" Zone.utc).run sampleRun = some (outcomes, w) ∧
      (outcomes[0]? = some (.ticket 1) ∧ outcomes[1]? = some (.ticket 2)) ∧
      w.gallery.albums.map (·.id) = ["1", "2"] := ⟨_, _, rfl, ⟨rfl, rfl⟩, rfl⟩
  obtain ⟨outcomes, w, hrun, ⟨hfirst, hsecond⟩, halbums⟩ := hrun
  have hheld : TicketsHeld sampleRun outcomes := by
    intro i ticket fetched hi
    rcases i with _ | _ | _ | _ | _ | _ | _ | _ | i <;> cases hi
    · exact ⟨1, by decide, hsecond⟩
    · exact ⟨0, by decide, hfirst⟩
  exact ⟨outcomes, w, hrun, hheld, halbums, loads_settle hrun hheld⟩

end AlbumBrowser.Viewer
