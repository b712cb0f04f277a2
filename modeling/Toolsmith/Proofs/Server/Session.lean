import Toolsmith.Proofs.Table
import Toolsmith.Server.Session

/-!
# What the operations on sessions do

Beginning a session drops the expired ones. While fewer than the limit are left, all of them are
kept; at the limit the one that has been idle longest goes. A touch and the end of a session
concern no other one. All of this is said of the entries of the store, which are told apart by
their ids.

## Main definitions

* `SessionStore.alive`, `SessionStore.kept`: the sessions that have not expired, and those of
  them that are kept when another one begins.
* `SessionStore.Sound`: each id once, and no more sessions than the limit.
* `SessionStore.Operation`: the operations on a store, as data.

## Main statements

* `SessionStore.Sound.kept_cases`: who is left when a session begins.
* `SessionStore.Sound.mem_start`, `SessionStore.Sound.mem_touch`, `SessionStore.mem_close`: who is
  held after an operation.
* `SessionStore.Sound.perform`: operations keep a store sound.
-/

namespace Toolsmith.Server.SessionStore

variable {s : SessionStore} {t : Table Nat} {now a : Nat} {id other new : String}
  {e : String × Nat}

/-- The sessions that have not expired. -/
def alive (s : SessionStore) (now : Nat) : Table Nat :=
  s.lastActive.filter fun e ↦ s.isAlive now e.2

theorem isAlive_iff : s.isAlive now a = true ↔ now - a < s.idleTimeout :=
  decide_eq_true_iff

/-- The sessions that have not expired are those that are held and idle for a shorter time. -/
theorem mem_alive : e ∈ s.alive now ↔ e ∈ s.lastActive ∧ now - e.2 < s.idleTimeout := by
  rw [alive, List.mem_filter, isAlive_iff]

/-! ### Making room -/

theorem oldest?_eq_none : oldest? t = none ↔ t = [] := by
  cases t with
  | nil => exact iff_of_true rfl rfl
  | cons e t =>
    refine iff_of_false ?_ (List.cons_ne_nil e t)
    rw [oldest?]
    split
    · exact Option.some_ne_none _
    · split <;> exact Option.some_ne_none _

/-- The session that is taken to be idle longest is held, and none has been idle for longer. -/
theorem oldest?_eq_some {o : String × Nat} (h : oldest? t = some o) :
    o ∈ t ∧ ∀ e ∈ t, o.2 ≤ e.2 := by
  induction t generalizing o with
  | nil => cases h
  | cons e t ih =>
    rw [oldest?] at h
    cases rest : oldest? t with
    | none =>
      rw [rest] at h
      cases h
      rw [oldest?_eq_none.1 rest]
      refine ⟨List.mem_singleton_self e, fun d hd ↦ ?_⟩
      exact Nat.le_of_eq (congrArg Prod.snd (List.mem_singleton.1 hd)).symm
    | some p =>
      simp only [rest] at h
      obtain ⟨held, least⟩ := ih rest
      rw [List.forall_mem_cons]
      by_cases older : p.2 < e.2
      · rw [if_pos older] at h
        cases h
        exact ⟨List.mem_cons_of_mem _ held, Nat.le_of_lt older, least⟩
      · rw [if_neg older] at h
        cases h
        refine ⟨List.mem_cons_self, Nat.le_refl _, fun d hd ↦ ?_⟩
        exact Nat.le_trans (Nat.le_of_not_lt older) (least d hd)

/-- Below the limit, no room has to be made. -/
theorem makeRoom_of_lt {limit : Nat} (h : t.length < limit) (fuel : Nat) :
    makeRoom limit fuel t = t := by
  cases fuel with
  | zero => rfl
  | succ fuel => rw [makeRoom, if_pos h]

theorem length_erase_lt (h : e ∈ t) : (t.erase e.1).length < t.length := by
  refine List.length_filter_lt_length_iff_exists.2 ⟨e, h, ?_⟩
  rw [bne_self_eq_false]
  exact Bool.false_ne_true

/-! ### Sound stores -/

/-- A store holds each id once, and no more sessions than its limit, which is not zero. -/
structure Sound (s : SessionStore) : Prop where
  /-- At least one session may be held. -/
  positive : 0 < s.limit
  /-- The ids are distinct. -/
  distinct : s.lastActive.names.Nodup
  /-- There are no more sessions than the limit. -/
  bounded : s.size ≤ s.limit

/-- A store that holds nothing is sound. -/
theorem sound_of_lastActive_eq_nil (positive : 0 < s.limit) (h : s.lastActive = []) : s.Sound := by
  refine ⟨positive, ?_, ?_⟩
  · rw [h]
    exact List.nodup_nil
  · rw [size, h]
    exact Nat.zero_le _

namespace Sound

theorem distinct_alive (h : s.Sound) (now : Nat) : (s.alive now).names.Nodup :=
  Table.nodup_names_filter h.distinct _

/-- No more sessions have not expired than may be held. -/
theorem length_alive_le (h : s.Sound) (now : Nat) : (s.alive now).length ≤ s.limit :=
  Nat.le_trans (List.length_filter_le _ _) h.bounded

end Sound

/-! ### Beginning a session -/

/-- The sessions that are kept when one begins. -/
def kept (s : SessionStore) (now : Nat) : Table Nat :=
  makeRoom s.limit (s.alive now).length (s.alive now)

/-- A session that begins comes to those that were kept. -/
theorem lastActive_start : (s.start now new).lastActive = (s.kept now).insert new now := rfl

/-- Below the limit every session that has not expired is kept; at the limit one of those that
have been idle longest goes. -/
theorem Sound.kept_cases (h : s.Sound) (now : Nat) :
    ((s.alive now).length < s.limit ∧ s.kept now = s.alive now) ∨
      (s.limit ≤ (s.alive now).length ∧
        ∃ o ∈ s.alive now, (∀ e ∈ s.alive now, o.2 ≤ e.2) ∧
          s.kept now = (s.alive now).erase o.1) := by
  rcases Nat.lt_or_ge (s.alive now).length s.limit with room | full
  · exact .inl ⟨room, makeRoom_of_lt room _⟩
  · refine .inr ⟨full, ?_⟩
    have length : (s.alive now).length = s.limit := Nat.le_antisymm (h.length_alive_le now) full
    obtain ⟨fuel, hf⟩ := Nat.exists_eq_add_of_lt h.positive
    rw [Nat.zero_add] at hf
    have ne : s.alive now ≠ [] := by
      intro none
      rw [none, List.length_nil] at full
      exact Nat.not_lt_of_le full h.positive
    obtain ⟨o, ho⟩ := Option.ne_none_iff_exists'.1 fun none ↦ ne (oldest?_eq_none.1 none)
    obtain ⟨held, least⟩ := oldest?_eq_some ho
    refine ⟨o, held, least, ?_⟩
    -- The first round drops the session, and the second one finds that there is room.
    rw [kept, length, hf, makeRoom, ← hf, if_neg (Nat.not_lt_of_le full), ho]
    exact makeRoom_of_lt (Nat.lt_of_lt_of_eq (length_erase_lt held) length) fuel

/-- The sessions that are kept have not expired. -/
theorem Sound.mem_alive_of_mem_kept (h : s.Sound) (he : e ∈ s.kept now) : e ∈ s.alive now := by
  rcases h.kept_cases now with ⟨-, eq⟩ | ⟨-, o, -, -, eq⟩ <;> rw [eq] at he
  · exact he
  · exact (Table.mem_erase.1 he).1

theorem Sound.distinct_kept (h : s.Sound) (now : Nat) : (s.kept now).names.Nodup := by
  have distinct := h.distinct_alive now
  rcases h.kept_cases now with ⟨-, eq⟩ | ⟨-, o, -, -, eq⟩ <;> rw [eq]
  · exact distinct
  · exact Table.nodup_names_filter distinct _

/-- They leave room for one more. -/
theorem Sound.length_kept_lt (h : s.Sound) (now : Nat) : (s.kept now).length < s.limit := by
  rcases h.kept_cases now with ⟨room, eq⟩ | ⟨-, o, held, -, eq⟩ <;> rw [eq]
  · exact room
  · exact Nat.lt_of_lt_of_le (length_erase_lt held) (h.length_alive_le now)

/-- After a session began, the store holds it and those that were kept. -/
theorem Sound.mem_start (h : s.Sound) :
    e ∈ (s.start now new).lastActive ↔ e = (new, now) ∨ e ∈ s.kept now ∧ e.1 ≠ new := by
  rw [lastActive_start, Table.mem_insert_iff (h.distinct_kept now)]

/-! ### Touching and closing -/

/-- A touch finds nothing, or refreshes a session, or drops an expired one. -/
theorem touch_cases (s : SessionStore) (now : Nat) (id : String) :
    (s.touch now id = (false, s) ∧ id ∉ s.lastActive.names) ∨
      ∃ a, (id, a) ∈ s.lastActive ∧
        ((now - a < s.idleTimeout ∧
            s.touch now id = (true, { s with lastActive := s.lastActive.insert id now })) ∨
          (s.idleTimeout ≤ now - a ∧
            s.touch now id = (false, { s with lastActive := s.lastActive.erase id }))) := by
  rw [touch]
  cases found : s.lastActive.get? id with
  | none => exact .inl ⟨rfl, Table.get?_eq_none_iff.1 found⟩
  | some a =>
    refine .inr ⟨a, Table.mem_of_get? found, ?_⟩
    simp only
    by_cases young : now - a < s.idleTimeout
    · exact .inl ⟨young, if_pos (isAlive_iff.2 young)⟩
    · exact .inr ⟨Nat.le_of_not_lt young, if_neg fun alive ↦ young (isAlive_iff.1 alive)⟩

/-- A touch finds the sessions that have not expired. -/
theorem Sound.touch_fst (h : s.Sound) : (s.touch now id).1 = true ↔ id ∈ (s.alive now).names := by
  have unique {a b : Nat} (ha : (id, a) ∈ s.lastActive) (hb : (id, b) ∈ s.lastActive) : a = b :=
    Option.some.inj (((Table.get?_eq_some_iff h.distinct).2 ha).symm.trans
      ((Table.get?_eq_some_iff h.distinct).2 hb))
  rcases s.touch_cases now id with ⟨eq, absent⟩ | ⟨a, held, ⟨young, eq⟩ | ⟨old, eq⟩⟩ <;> rw [eq]
  · refine iff_of_false Bool.false_ne_true fun alive ↦ ?_
    obtain ⟨a, ha⟩ := Table.exists_of_mem_names alive
    exact absent (Table.mem_names_of_mem (mem_alive.1 ha).1)
  · exact iff_of_true rfl (Table.mem_names_of_mem (mem_alive.2 ⟨held, young⟩))
  · refine iff_of_false Bool.false_ne_true fun alive ↦ ?_
    obtain ⟨b, hb⟩ := Table.exists_of_mem_names alive
    obtain ⟨held', young⟩ := mem_alive.1 hb
    rw [unique held' held] at young
    exact Nat.not_lt_of_le old young

/-- After a touch the session is held with its new activity, or not at all, and the others as
they were. -/
theorem Sound.mem_touch (h : s.Sound) :
    e ∈ (s.touch now id).2.lastActive ↔
      (e = (id, now) ∧ (s.touch now id).1 = true) ∨ e ∈ s.lastActive ∧ e.1 ≠ id := by
  rcases s.touch_cases now id with ⟨eq, absent⟩ | ⟨a, held, ⟨young, eq⟩ | ⟨old, eq⟩⟩ <;> rw [eq]
  · have other (he : e ∈ s.lastActive) : e.1 ≠ id := by
      rintro rfl
      exact absent (Table.mem_names_of_mem he)
    simpa using other
  · simp only [Table.mem_insert_iff h.distinct, and_true]
  · simp only [Table.mem_erase, Bool.false_eq_true, and_false, false_or]

/-- The end of a session tells whether it was held. -/
theorem close_fst : (s.close id).1 = true ↔ id ∈ s.lastActive.names := by
  show (s.lastActive.get? id).isSome = true ↔ _
  rw [← Option.ne_none_iff_isSome, ne_eq, Table.get?_eq_none_iff, not_not]

/-- After a session was closed, the store holds all others. -/
theorem mem_close : e ∈ (s.close id).2.lastActive ↔ e ∈ s.lastActive ∧ e.1 ≠ id :=
  Table.mem_erase

/-! ### Operations -/

/-- An operation on a store. -/
inductive Operation where
  /-- A session with a new id begins. -/
  | start (id : String)
  /-- A session is touched. -/
  | touch (id : String)
  /-- A session ends. -/
  | close (id : String)
deriving DecidableEq

/-- What an operation answers, and the store that it leaves. A session always begins. -/
def perform (s : SessionStore) (now : Nat) : Operation → Bool × SessionStore
  | .start id => (true, s.start now id)
  | .touch id => s.touch now id
  | .close id => s.close id

/-- No operation changes the limit. -/
theorem limit_perform (s : SessionStore) (now : Nat) (o : Operation) :
    (s.perform now o).2.limit = s.limit := by
  cases o with
  | start | close => rfl
  | touch id =>
    rw [perform, touch]
    split
    · rfl
    · split <;> rfl

/-- Nor does any change the time after which sessions expire. -/
theorem idleTimeout_perform (s : SessionStore) (now : Nat) (o : Operation) :
    (s.perform now o).2.idleTimeout = s.idleTimeout := by
  cases o with
  | start | close => rfl
  | touch id =>
    rw [perform, touch]
    split
    · rfl
    · split <;> rfl

/-- Operations keep a store sound. -/
theorem Sound.perform (h : s.Sound) (now : Nat) (o : Operation) : (s.perform now o).2.Sound := by
  have positive : 0 < (s.perform now o).2.limit := by
    rw [limit_perform]
    exact h.positive
  have erased (id : String) : (s.lastActive.erase id).length ≤ s.limit :=
    Nat.le_trans (List.length_filter_le _ _) h.bounded
  cases o with
  | start id =>
    refine ⟨positive, Table.nodup_names_insert (h.distinct_kept now) id now, ?_⟩
    show ((s.kept now).insert id now).length ≤ s.limit
    rw [Table.length_insert]
    split
    · exact Nat.le_of_lt (h.length_kept_lt now)
    · exact h.length_kept_lt now
  | touch id =>
    rcases s.touch_cases now id with ⟨eq, -⟩ | ⟨a, held, ⟨-, eq⟩ | ⟨-, eq⟩⟩ <;>
      rw [SessionStore.perform, eq]
    · exact h
    · refine ⟨h.positive, Table.nodup_names_insert h.distinct id now, ?_⟩
      rw [size, Table.length_insert, if_pos (Table.mem_names_of_mem held)]
      exact h.bounded
    · exact ⟨h.positive, Table.nodup_names_filter h.distinct _, erased id⟩
  | close id => exact ⟨positive, Table.nodup_names_filter h.distinct _, erased id⟩

end Toolsmith.Server.SessionStore
