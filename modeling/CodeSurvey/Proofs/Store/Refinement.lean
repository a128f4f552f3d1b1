import CodeSurvey.Proofs.Report.Proper
import CodeSurvey.Proofs.Store.Laws

namespace CodeSurvey

inductive Request where
  | put (key : StoreKey) (r : Report)
  | get (key : StoreKey)
  | delete (key : StoreKey)

inductive Reply where
  | done
  | found (payload : Option Json)
  | deleted (present : Bool)

namespace Request

-- A put that is carried out. One of a report that cannot be written is refused.
def Puts (q : Request) (key : StoreKey) (r : Report) : Prop :=
  q = .put key r ∧ r.toWrapped.checkWritable = .ok ()

inductive Writes (key : StoreKey) : Request → Prop where
  | put {q : Request} {r : Report} (h : q.Puts key r) : Writes key q
  | delete : Writes key (.delete key)

end Request

abbrev Contents := StoreKey → Option Json

namespace Contents

def nothing : Contents := fun _ => none

def next (m : Contents) : Request → Contents
  | .put key r =>
      match r.toWrapped.checkWritable with
      | .ok _ => Function.update m key (some r.toWrapped)
      | .error _ => m
  | .get _ => m
  | .delete key => Function.update m key none

def reply (m : Contents) : Request → Except Fault Reply
  | .put _ r => (fun _ => .done) <$> r.toWrapped.checkWritable
  | .get key => .ok (.found (m key))
  | .delete key => .ok (.deleted (m key).isSome)

def after (m : Contents) (requests : List Request) : Contents :=
  requests.foldl next m

def replies (m : Contents) : List Request → List (Except Fault Reply)
  | [] => []
  | q :: rest => m.reply q :: (m.next q).replies rest

end Contents

structure LastPut (requests : List Request) (key : StoreKey) (n : Nat) (r : Report) : Prop where
  put : requests[n]? = some (.put key r)
  writable : r.toWrapped.checkWritable = .ok ()
  last : ∀ m q, n < m → requests[m]? = some q → ¬q.Writes key

namespace LastPut

variable {requests : List Request} {q : Request} {key : StoreKey} {n : Nat} {r : Report}

theorem getElem?_concat_iff {p : Request} :
    (requests ++ [q])[n]? = some p ↔ requests[n]? = some p ∨ (n = requests.length ∧ q = p) := by
  rcases Nat.lt_trichotomy n requests.length with hlt | rfl | hgt
  · rw [List.getElem?_append_left hlt]
    simp [Nat.ne_of_lt hlt]
  · simp
  · have hout : (requests ++ [q]).length ≤ n := by
      rw [List.length_append, List.length_singleton]
      exact hgt
    rw [List.getElem?_eq_none hout, List.getElem?_eq_none (Nat.le_of_lt hgt)]
    simp [Nat.ne_of_gt hgt]

theorem lt_length (h : LastPut requests key n r) : n < requests.length := by
  obtain ⟨hn, -⟩ := List.getElem?_eq_some_iff.1 h.put
  exact hn

theorem not_nil : ¬LastPut [] key n r := fun h => absurd h.lt_length (Nat.not_lt_zero n)

theorem concat_iff : LastPut (requests ++ [q]) key n r
    ↔ (¬q.Writes key ∧ LastPut requests key n r) ∨ (q.Puts key r ∧ n = requests.length) := by
  constructor
  · intro h
    rcases getElem?_concat_iff.1 h.put with hput | ⟨hn, hq⟩
    · obtain ⟨hn, -⟩ := List.getElem?_eq_some_iff.1 hput
      exact .inl ⟨h.last _ q hn (getElem?_concat_iff.2 (.inr ⟨rfl, rfl⟩)), hput, h.writable,
        fun m p hm hp => h.last m p hm (getElem?_concat_iff.2 (.inl hp))⟩
    · exact .inr ⟨⟨hq, h.writable⟩, hn⟩
  · rintro (⟨hwrites, h⟩ | ⟨⟨rfl, hwritable⟩, rfl⟩)
    · refine ⟨getElem?_concat_iff.2 (.inl h.put), h.writable, fun m p hm hp => ?_⟩
      rcases getElem?_concat_iff.1 hp with hp | ⟨-, rfl⟩
      · exact h.last m p hm hp
      · exact hwrites
    · refine ⟨getElem?_concat_iff.2 (.inr ⟨rfl, rfl⟩), hwritable, fun m p hm hp => ?_⟩
      obtain ⟨hlength, -⟩ := List.getElem?_eq_some_iff.1 hp
      rw [List.length_append, List.length_singleton] at hlength
      omega

theorem of_concat (h : LastPut (requests ++ [q]) key n r) (hq : ∀ r, ¬q.Puts key r) :
    LastPut requests key n r := by
  rcases concat_iff.1 h with ⟨-, h⟩ | ⟨hput, -⟩
  · exact h
  · exact absurd hput (hq r)

end LastPut

namespace Contents

theorem next_of_puts {m : Contents} {q : Request} {key : StoreKey} {r : Report} (h : q.Puts key r) :
    m.next q = Function.update m key (some r.toWrapped) := by
  obtain ⟨rfl, hwritable⟩ := h
  rw [next, hwritable]

theorem next_of_not_writes {m : Contents} {q : Request} {key : StoreKey} (h : ¬q.Writes key) :
    m.next q key = m key := by
  cases q with
  | put other r =>
      cases hwritable : r.toWrapped.checkWritable with
      | ok _ =>
          rw [next_of_puts ⟨rfl, hwritable⟩]
          refine Function.update_of_ne ?_ _ _
          rintro rfl
          exact h (.put ⟨rfl, hwritable⟩)
      | error f => rw [next, hwritable]
  | get other => rfl
  | delete other =>
      refine Function.update_of_ne ?_ _ _
      rintro rfl
      exact h .delete

theorem after_eq_some_iff {requests : List Request} {key : StoreKey} {v : Json} :
    nothing.after requests key = some v ↔ ∃ n r, LastPut requests key n r ∧ r.toWrapped = v := by
  induction requests using List.reverseRecOn with
  | nil =>
      constructor
      · exact fun h => absurd h nofun
      · rintro ⟨n, r, h, -⟩
        exact absurd h LastPut.not_nil
  | append_singleton requests q ih =>
      have hafter : nothing.after (requests ++ [q]) = (nothing.after requests).next q := by
        rw [after, List.foldl_append]
        rfl
      rw [hafter]
      by_cases hwrites : q.Writes key
      · simp only [LastPut.concat_iff, hwrites, not_true_eq_false, false_and, false_or]
        cases hwrites with
        | put hput =>
            obtain ⟨rfl, hwritable⟩ := id hput
            rw [next_of_puts hput]
            simp [Request.Puts, hwritable]
        | delete => simp [next, Request.Puts]
      · have hput (r : Report) : ¬q.Puts key r := fun h => hwrites (.put h)
        simp only [LastPut.concat_iff, hwrites, hput, not_false_eq_true, true_and,
          false_and, or_false]
        rw [next_of_not_writes hwrites, ih]

theorem written_of_found {m : Contents} {requests : List Request} {v : Json}
    (h : .ok (.found (some v)) ∈ m.replies requests) :
    (∃ key, m key = some v) ∨ ∃ key r, .put key r ∈ requests ∧ r.toWrapped = v := by
  induction requests generalizing m with
  | nil => exact absurd h List.not_mem_nil
  | cons q rest ih =>
      rcases List.mem_cons.1 h with hq | hrest
      · cases q with
        | put key r =>
            obtain ⟨_, -, hdone⟩ := Outcome.map_eq_ok.1 hq.symm
            exact absurd hdone nofun
        | get key => exact .inl ⟨key, (Reply.found.inj (Except.ok.inj hq)).symm⟩
        | delete key => exact absurd hq nofun
      · rcases ih hrest with ⟨key, hkey⟩ | ⟨key, r, hput, hr⟩
        · by_cases hwrites : q.Writes key
          · cases hwrites with
            | put hput =>
                rw [next_of_puts hput, Function.update_self] at hkey
                exact .inr ⟨key, _, hput.1 ▸ List.mem_cons_self, Option.some.inj hkey⟩
            | delete =>
                rw [next, Function.update_self] at hkey
                exact absurd hkey nofun
          · rw [next_of_not_writes hwrites] at hkey
            exact .inl ⟨key, hkey⟩
        · exact .inr ⟨key, r, List.mem_cons_of_mem q hput, hr⟩

end Contents

namespace Store

variable {s : Store} {m : Contents} {q : Request} {key : StoreKey}

def next (s : Store) : Request → Store
  | .put key r =>
      match s.write key r with
      | .ok t => t
      | .error _ => s
  | .get _ => s
  | .delete key => s.erase key

def reply (s : Store) : Request → Except Fault Reply
  | .put key r => (fun _ => .done) <$> s.write key r
  | .get key => .found <$> s.get key
  | .delete key => .ok (.deleted (s.has key))

def after (s : Store) (requests : List Request) : Store :=
  requests.foldl next s

def replies (s : Store) : List Request → List (Except Fault Reply)
  | [] => []
  | q :: rest => s.reply q :: (s.next q).replies rest

structure Represents (s : Store) (m : Contents) : Prop where
  holds : ∀ key v, m key = some v → s.Holds key v
  absent : ∀ key, m key = none → key ∉ s.keys
  written : ∀ key v, m key = some v →
    ∃ r : Report, r.Proper ∧ r.toWrapped.checkWritable = .ok () ∧ r.toWrapped = v

theorem represents_nothing (hs : s.keys = []) : s.Represents Contents.nothing where
  holds key v h := absurd h nofun
  absent key _ := by
    rw [hs]
    exact List.not_mem_nil
  written key v h := absurd h nofun

theorem has_of_not_mem (h : key ∉ s.keys) : s.has key = false := by
  cases s with
  | values entries => rw [has, Table.find?_of_not_mem h]; rfl
  | texts rows => rw [has, Table.has, Table.find?_of_not_mem h]; rfl

theorem has_of_holds {r : Report} (h : s.Holds key r.toWrapped) : s.has key = true := by
  cases s with
  | values entries =>
      simp only [Holds] at h
      rw [has, h]
      rfl
  | texts rows =>
      simp only [Holds] at h
      rw [has, Table.has, h]
      rfl

theorem next_of_puts {r : Report} (h : q.Puts key r) : s.next q = s.put key r := by
  obtain ⟨rfl, hwritable⟩ := h
  rw [next, write_eq_ok_iff.2 ⟨hwritable, rfl⟩]

theorem next_of_refused {r : Report} {f : Fault} (h : r.toWrapped.checkWritable = .error f) :
    s.next (.put key r) = s := by
  rw [next, write_eq_error_iff.2 h]

theorem Represents.put (h : s.Represents m) (key : StoreKey) {r : Report} (hr : r.Proper)
    (hwritable : r.toWrapped.checkWritable = .ok ()) :
    (s.put key r).Represents (Function.update m key (some r.toWrapped)) where
  holds other v hv := by
    rw [Function.update_apply] at hv
    split at hv
    · rename_i hkey
      subst hkey
      exact Option.some.inj hv ▸ holds_put s other r
    · rename_i hkey
      exact holds_of_agreesAt (agreesAt_put hkey s r) (h.holds other v hv)
  absent other hother := by
    rw [Function.update_apply] at hother
    split at hother
    · exact absurd hother nofun
    · rename_i hkey
      simp [keys_put, hkey, h.absent other hother]
  written other v hv := by
    rw [Function.update_apply] at hv
    split at hv
    · exact ⟨r, hr, hwritable, Option.some.inj hv⟩
    · exact h.written other v hv

theorem Represents.erase (h : s.Represents m) (key : StoreKey) :
    (s.erase key).Represents (Function.update m key none) where
  holds other v hv := by
    rw [Function.update_apply] at hv
    split at hv
    · exact absurd hv nofun
    · rename_i hkey
      exact holds_of_agreesAt (agreesAt_erase hkey s) (h.holds other v hv)
  absent other hother := by
    rw [Function.update_apply] at hother
    split at hother
    · rename_i hkey
      simp [keys_erase, hkey]
    · simp [keys_erase, h.absent other hother]
  written other v hv := by
    rw [Function.update_apply] at hv
    split at hv
    · exact absurd hv nofun
    · exact h.written other v hv

theorem Represents.next (h : s.Represents m) (hq : ∀ key r, q = .put key r → r.Proper) :
    (s.next q).Represents (m.next q) := by
  cases q with
  | put key r =>
      cases hwritable : r.toWrapped.checkWritable with
      | ok _ =>
          rw [next_of_puts ⟨rfl, hwritable⟩, Contents.next_of_puts ⟨rfl, hwritable⟩]
          exact h.put key (hq key r rfl) hwritable
      | error f =>
          rw [next_of_refused hwritable, Contents.next, hwritable]
          exact h
  | get key => exact h
  | delete key => exact h.erase key

theorem Represents.get (h : s.Represents m) (key : StoreKey) : s.get key = .ok (m key) := by
  cases hm : m key with
  | none => exact get_of_not_mem (h.absent key hm)
  | some v =>
      obtain ⟨r, hr, hwritable, rfl⟩ := h.written key v hm
      exact get_of_holds hr.toWrapped hwritable (h.holds key _ hm)

theorem Represents.has (h : s.Represents m) (key : StoreKey) : s.has key = (m key).isSome := by
  cases hm : m key with
  | none => exact has_of_not_mem (h.absent key hm)
  | some v =>
      obtain ⟨r, -, -, rfl⟩ := h.written key v hm
      exact has_of_holds (h.holds key _ hm)

theorem Represents.reply (h : s.Represents m) (q : Request) : s.reply q = m.reply q := by
  cases q with
  | put key r =>
      rw [Store.reply, Contents.reply]
      cases hwritable : r.toWrapped.checkWritable with
      | ok _ =>
          rw [write_eq_ok_iff.2 ⟨hwritable, rfl⟩]
          rfl
      | error f =>
          rw [write_eq_error_iff.2 hwritable]
          rfl
  | get key =>
      rw [Store.reply, h.get key]
      rfl
  | delete key => rw [Store.reply, Contents.reply, h.has key]

theorem Represents.replies {requests : List Request} (h : s.Represents m)
    (hproper : ∀ key r, .put key r ∈ requests → r.Proper) :
    s.replies requests = m.replies requests := by
  induction requests generalizing s m with
  | nil => rfl
  | cons q rest ih =>
      have hnext := h.next fun key r hq => hproper key r (hq ▸ List.mem_cons_self)
      rw [Store.replies, Contents.replies, h.reply q,
        ih hnext fun key r hr => hproper key r (List.mem_cons_of_mem q hr)]

theorem Represents.after {requests : List Request} (h : s.Represents m)
    (hproper : ∀ key r, .put key r ∈ requests → r.Proper) :
    (s.after requests).Represents (m.after requests) := by
  induction requests generalizing s m with
  | nil => exact h
  | cons q rest ih =>
      have hnext := h.next fun key r hq => hproper key r (hq ▸ List.mem_cons_self)
      exact ih hnext fun key r hr => hproper key r (List.mem_cons_of_mem q hr)

theorem Represents.mem_keys_iff (h : s.Represents m) : key ∈ s.keys ↔ (m key).isSome := by
  cases hm : m key with
  | none => simp [h.absent key hm]
  | some v => simp [mem_keys_of_holds (h.holds key v hm)]

theorem mem_identifiers_iff {analyzer identifier : String} :
    identifier ∈ s.identifiers analyzer ↔ ⟨analyzer, identifier⟩ ∈ s.keys := by
  simp only [identifiers, List.mem_map, List.mem_filter, beq_iff_eq]
  constructor
  · rintro ⟨⟨_, _⟩, ⟨hkey, rfl⟩, rfl⟩
    exact hkey
  · exact fun hkey => ⟨_, ⟨hkey, rfl⟩, rfl⟩

theorem pairwise_identifiers {R : StoreKey → StoreKey → Prop} (h : s.keys.Pairwise R)
    (analyzer : String) :
    (s.identifiers analyzer).Pairwise fun i j => R ⟨analyzer, i⟩ ⟨analyzer, j⟩ := by
  refine List.pairwise_map.2 ((h.filter _).imp_of_mem fun {k k'} hk hk' hR => ?_)
  obtain ⟨-, hk⟩ := List.mem_filter.1 hk
  obtain ⟨-, hk'⟩ := List.mem_filter.1 hk'
  obtain ⟨_, _⟩ := k
  obtain ⟨_, _⟩ := k'
  obtain rfl := beq_iff_eq.1 hk
  obtain rfl := beq_iff_eq.1 hk'
  exact hR

def Precedes (requests : List Request) (k k' : StoreKey) : Prop :=
  ∀ m n r r', LastPut requests k m r → LastPut requests k' n r' → m < n

theorem pairwise_concat {requests : List Request} {keys : List StoreKey}
    (hq : ∀ key ∈ keys, ∀ r, ¬q.Puts key r)
    (h : keys.Pairwise fun k k' => k ≠ k' ∧ Precedes requests k k') :
    keys.Pairwise fun k k' => k ≠ k' ∧ Precedes (requests ++ [q]) k k' :=
  h.imp_of_mem fun hk hk' h =>
    ⟨h.1, fun m n r r' hm hn => h.2 m n r r' (hm.of_concat (hq _ hk)) (hn.of_concat (hq _ hk'))⟩

theorem pairwise_keys_after (hs : s.keys = []) (requests : List Request) :
    (s.after requests).keys.Pairwise fun k k' => k ≠ k' ∧ Precedes requests k k' := by
  induction requests using List.reverseRecOn with
  | nil =>
      show s.keys.Pairwise _
      rw [hs]
      exact .nil
  | append_singleton requests q ih =>
      have hafter : s.after (requests ++ [q]) = (s.after requests).next q := by
        rw [after, List.foldl_append]
        rfl
      rw [hafter]
      cases q with
      | get key => exact pairwise_concat (fun _ _ _ hput => absurd hput.1 nofun) ih
      | delete key =>
          rw [next, keys_erase]
          exact pairwise_concat (fun _ _ _ hput => absurd hput.1 nofun) (ih.filter _)
      | put key r =>
          cases hwritable : r.toWrapped.checkWritable with
          | error f =>
              rw [next_of_refused hwritable]
              refine pairwise_concat (fun k _ r' hput => ?_) ih
              obtain ⟨hq, hr'⟩ := hput
              rw [← (Request.put.inj hq).2, hwritable] at hr'
              exact absurd hr' nofun
          | ok _ =>
              have hputs : (Request.put key r).Puts key r := ⟨rfl, hwritable⟩
              have hother {k : StoreKey} (hk : k ∈ (s.after requests).keys.filter (· != key)) :
                  k ≠ key ∧ ∀ r', ¬(Request.put key r).Puts k r' := by
                have hne := bne_iff_ne.1 (List.mem_filter.1 hk).2
                exact ⟨hne, fun r' hput => hne (Request.put.inj hput.1).1.symm⟩
              rw [next_of_puts hputs, keys_put]
              refine List.pairwise_append.2
                ⟨pairwise_concat (fun k hk => (hother hk).2) (ih.filter _),
                  List.pairwise_singleton _ _, fun k hk k' hk' => ?_⟩
              obtain rfl := List.mem_singleton.1 hk'
              refine ⟨(hother hk).1, fun m n r₁ r₂ hm hn => ?_⟩
              rcases LastPut.concat_iff.1 hn with ⟨hwrites, -⟩ | ⟨-, rfl⟩
              · exact absurd (.put hputs) hwrites
              · exact (hm.of_concat (hother hk).2).lt_length

theorem answers_as_map (hs : s.keys = []) (requests : List Request)
    (hputs : ∀ key r, .put key r ∈ requests → r.Proper ∧ r.about.Definite) :
    s.replies requests = Contents.nothing.replies requests
    ∧ (∀ key v, Contents.nothing.after requests key = some v ↔ ∃ n r, LastPut requests key n r
      ∧ r.toWrapped = v)
    ∧ (∀ v, .ok (.found (some v)) ∈ s.replies requests → ∃ r, Report.ofJson v = .ok r
      ∧ r.toWrapped = v)
    ∧ ∀ analyzer,
      (∀ identifier, identifier ∈ (s.after requests).identifiers analyzer
        ↔ (Contents.nothing.after requests ⟨analyzer, identifier⟩).isSome)
      ∧ ((s.after requests).identifiers analyzer).Nodup
      ∧ ((s.after requests).identifiers analyzer).Pairwise fun i j =>
        Precedes requests ⟨analyzer, i⟩ ⟨analyzer, j⟩ := by
  have hnothing := represents_nothing hs
  have hreplies := hnothing.replies fun key r hr => (hputs key r hr).1
  refine ⟨hreplies, fun key v => Contents.after_eq_some_iff, fun v hv => ?_,
    fun analyzer => ⟨fun identifier => ?_, ?_, ?_⟩⟩
  · rcases Contents.written_of_found (hreplies ▸ hv) with ⟨key, hkey⟩ | ⟨key, r, hr, rfl⟩
    · exact absurd hkey nofun
    · exact ⟨r.settled, Report.ofJson_toWrapped (hputs key r hr).2, r.toWrapped_settled⟩
  · rw [mem_identifiers_iff]
    exact (hnothing.after fun key r hr => (hputs key r hr).1).mem_keys_iff
  · refine (pairwise_identifiers (pairwise_keys_after hs requests) analyzer).imp fun h => ?_
    exact fun hij => h.1 (congrArg _ hij)
  · exact (pairwise_identifiers (pairwise_keys_after hs requests) analyzer).imp And.right

section Example

def keyOf (identifier : String) : StoreKey := ⟨"find-imports", identifier⟩

def reportOf (identifier : String) (output : Json) : Report :=
  { output
    about := {
      analyzer := .str "find-imports"
      dialect := .str "javascript"
      identifier := .str identifier
      configuration := [] } }

theorem proper_reportOf {identifier : String} {output : Json} (h : output.Proper) :
    (reportOf identifier output).Proper :=
  ⟨h, .str _, .str _, .str _, Fields.proper_nil, fun p h => absurd h (Option.not_mem_none p),
    fun p h => absurd h (Option.not_mem_none p)⟩

def putOf (identifier : String) (output : Json) : Request :=
  .put (keyOf identifier) (reportOf identifier output)

-- What is put last under the key of a cannot be written, so what was put there before stays.
def twoKept : List Request :=
  [putOf "a" (.arr []), putOf "b" (.arr []), putOf "c" (.arr []), putOf "a" (.arr [.null]),
    putOf "a" (.nested 990), .delete (keyOf "c"), .get (keyOf "a"), .get (keyOf "c")]

theorem proper_of_put_mem_twoKept {key : StoreKey} {r : Report} (h : .put key r ∈ twoKept) :
    r.Proper ∧ r.about.Definite := by
  obtain ⟨identifier, output, houtput, rfl⟩ : ∃ identifier output, output.Proper
      ∧ r = reportOf identifier output := by
    simp only [twoKept, putOf, List.mem_cons, Request.put.injEq, reduceCtorEq, List.not_mem_nil,
      or_false] at h
    rcases h with ⟨-, rfl⟩ | ⟨-, rfl⟩ | ⟨-, rfl⟩ | ⟨-, rfl⟩ | ⟨-, rfl⟩
    · exact ⟨"a", _, .arr fun _ h => absurd h List.not_mem_nil, rfl⟩
    · exact ⟨"b", _, .arr fun _ h => absurd h List.not_mem_nil, rfl⟩
    · exact ⟨"c", _, .arr fun _ h => absurd h List.not_mem_nil, rfl⟩
    · exact ⟨"a", _, .arr fun _ h => List.mem_singleton.1 h ▸ .null, rfl⟩
    · exact ⟨"a", _, Json.proper_nested 990, rfl⟩
  exact ⟨proper_reportOf houtput, fun p h => absurd h (Option.not_mem_none p),
    fun p h => absurd h (Option.not_mem_none p)⟩

theorem checkWritable_nested (identifier : String) :
    (reportOf identifier (.nested 990)).toWrapped.checkWritable = .error .nestedTooDeep := by
  have hoversized : Json.limits Json.maxIntegerDigits 989 (.nested 990) = .error .nestedTooDeep :=
    Json.limits_nested _ _ _
  rw [Report.toWrapped, Json.checkWritable, Json.assumedDepth, Json.limits, List.forM_cons]
  show Except.mapError _ (Json.limits Json.maxIntegerDigits 989 (.nested 990) >>= _) = _
  rw [hoversized]
  rfl

theorem answers_as_map_twoKept :
    (texts []).replies twoKept = [.ok .done, .ok .done, .ok .done, .ok .done, .error .nestedTooDeep,
      .ok (.deleted true), .ok (.found (some (reportOf "a" (.arr [.null])).toWrapped)),
      .ok (.found none)]
    ∧ Precedes twoKept (keyOf "b") (keyOf "a") := by
  have hempty (identifier : String) : (reportOf identifier (.arr [])).toWrapped.checkWritable
      = .ok () := rfl
  have hnull (identifier : String) : (reportOf identifier (.arr [.null])).toWrapped.checkWritable
      = .ok () := rfl
  have hdeep := checkWritable_nested "a"
  obtain ⟨hreplies, -, -, hlisted⟩ :=
    answers_as_map (s := texts []) rfl twoKept fun key r => proper_of_put_mem_twoKept
  constructor
  · rw [hreplies]
    simp [twoKept, putOf, Contents.replies, Contents.reply, Contents.next, hempty, hnull,
      hdeep, keyOf]
  · have hidentifiers : ((texts []).after twoKept).identifiers "find-imports" = ["b", "a"] := by
      simp only [twoKept, putOf, after, List.foldl_cons, List.foldl_nil, next, write, hempty,
        hnull, hdeep, Outcome.ok_bind, Outcome.error_bind, Outcome.pure_eq]
      rfl
    have hpairwise := (hlisted "find-imports").2.2
    rw [hidentifiers] at hpairwise
    exact List.rel_of_pairwise_cons hpairwise List.mem_cons_self

end Example

end Store

end CodeSurvey
