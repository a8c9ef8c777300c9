import Disburse.Proofs.Store.Agreement
import Disburse.Proofs.Store.Unreadable

/-!
Listings that are read page by page. The pages at the offsets that are multiples of the page size,
up to the first one that is empty, show each record that the filter accepts once, the later
creation first. Rows that denote no payout are never passed over: the page with one cannot be read.
-/

namespace Disburse

/-- The filter, from another offset on. -/
def Filter.startingAt (f : Filter) (offset : UInt32) : Filter :=
  { f with offset := some offset }

theorem Filter.pageSize_pos (f : Filter) : 0 < f.pageSize :=
  Nat.lt_of_lt_of_le Nat.one_pos (Nat.le_max_left ..)

/-- The pages that are read one after the other from an offset on, until there is an empty one. -/
inductive ReadsPages (list : Filter → Except Error (List Payout)) (f : Filter) :
    Nat → List (List Payout) → Prop
  | last {start : Nat} (offset : UInt32) (hoffset : offset.toNat = start)
      (hread : list (f.startingAt offset) = .ok []) : ReadsPages list f start []
  | page {start : Nat} {page : List Payout} {pages : List (List Payout)} (offset : UInt32)
      (hoffset : offset.toNat = start) (hread : list (f.startingAt offset) = .ok page)
      (hpage : page ≠ []) (hrest : ReadsPages list f (start + f.pageSize) pages) :
      ReadsPages list f start (page :: pages)

/-- Pages that show each of some records once, in a strict order, and are full but for the last. -/
structure Partitions {ρ : Type} (f : Filter) (records : List ρ) (shown : ρ → Payout → Prop)
    (before : ρ → ρ → Prop) (pages : List (List Payout)) : Prop where
  shown : ∃ sorted : List ρ, sorted.Perm records ∧ sorted.Pairwise before ∧
    List.Forall₂ shown sorted pages.flatten
  full : ∀ page ∈ pages.dropLast, page.length = f.pageSize

/-- All pages can be read if the offset behind the records is one, and pages that are read are a
partition of the records. -/
structure ListsByPages {ρ : Type} (list : Filter → Except Error (List Payout)) (f : Filter)
    (records : List ρ) (shown : ρ → Payout → Prop) (before : ρ → ρ → Prop) : Prop where
  partitions : ∀ pages, ReadsPages list f 0 pages → Partitions f records shown before pages
  reads : ∀ n, records.length ≤ n * f.pageSize → n * f.pageSize < UInt32.size →
    ∃ pages, ReadsPages list f 0 pages

/-- The pages that are read show the records of a list, from their offsets on. -/
def ShowsPages {ρ : Type} (list : Filter → Except Error (List Payout)) (f : Filter)
    (sorted : List ρ) (shown : ρ → Payout → Prop) : Prop :=
  ∀ (offset : UInt32) (page : List Payout), list (f.startingAt offset) = .ok page →
    List.Forall₂ shown ((sorted.drop offset.toNat).take f.pageSize) page

namespace ShowsPages

variable {ρ : Type} {list : Filter → Except Error (List Payout)} {f : Filter} {sorted : List ρ}
  {shown : ρ → Payout → Prop} {before : ρ → ρ → Prop} {start : Nat} {pages : List (List Payout)}

theorem drop_eq_nil {offset : UInt32} (h : ShowsPages list f sorted shown)
    (hread : list (f.startingAt offset) = .ok []) : sorted.drop offset.toNat = [] := by
  have hnone := List.forall₂_nil_right_iff.mp (h offset [] hread)
  exact (List.take_eq_nil_iff.mp hnone).resolve_left f.pageSize_pos.ne'

theorem flatten (h : ShowsPages list f sorted shown) (hpages : ReadsPages list f start pages) :
    List.Forall₂ shown (sorted.drop start) pages.flatten := by
  induction hpages with
  | last offset hoffset hread =>
      rw [← hoffset, h.drop_eq_nil hread]
      exact .nil
  | page offset hoffset hread _ _ ih =>
      have hpage := h offset _ hread
      rw [hoffset] at hpage
      rw [← List.take_append_drop f.pageSize (sorted.drop _), List.drop_drop, List.flatten_cons]
      exact List.rel_append hpage ih

theorem length_eq {page : List Payout} {offset : UInt32} (h : ShowsPages list f sorted shown)
    (hread : list (f.startingAt offset) = .ok page)
    (hmore : sorted.drop (offset.toNat + f.pageSize) ≠ []) : page.length = f.pageSize := by
  have hlength := (h offset page hread).length_eq
  have hbehind := List.length_pos_iff.mpr hmore
  rw [List.length_take, List.length_drop] at hlength
  rw [List.length_drop] at hbehind
  omega

theorem full (h : ShowsPages list f sorted shown) (hpages : ReadsPages list f start pages) :
    ∀ page ∈ pages.dropLast, page.length = f.pageSize := by
  induction hpages with
  | last => exact fun _ hmem => absurd hmem List.not_mem_nil
  | page offset hoffset hread _ hrest ih =>
      cases hrest with
      | last => exact fun _ hmem => absurd hmem List.not_mem_nil
      | page offset' hoffset' hread' hpage' =>
          have hmore : sorted.drop offset'.toNat ≠ [] := by
            intro hnil
            have hempty := h offset' _ hread'
            rw [hnil, List.take_nil] at hempty
            exact hpage' (List.forall₂_nil_left_iff.mp hempty)
          rw [List.dropLast_cons_cons]
          refine List.forall_mem_cons.mpr ⟨h.length_eq hread ?_, ih⟩
          rwa [hoffset, ← hoffset']

theorem exists_pages (h : ShowsPages list f sorted shown)
    (hreadable : ∀ offset, ∃ page, list (f.startingAt offset) = .ok page) {n : Nat}
    (hbehind : sorted.length ≤ start + n * f.pageSize)
    (hrange : start + n * f.pageSize < UInt32.size) : ∃ pages, ReadsPages list f start pages := by
  induction n generalizing start with
  | zero =>
      have hstart : (UInt32.ofNat start).toNat = start := UInt32.toNat_ofNat_of_lt' (by omega)
      obtain ⟨page, hread⟩ := hreadable (UInt32.ofNat start)
      have hnil := h _ page hread
      rw [hstart, List.drop_eq_nil_of_le (by omega), List.take_nil] at hnil
      rw [List.forall₂_nil_left_iff.mp hnil] at hread
      exact ⟨[], .last _ hstart hread⟩
  | succ n ih =>
      rw [Nat.succ_mul] at hbehind hrange
      have hstart : (UInt32.ofNat start).toNat = start := UInt32.toNat_ofNat_of_lt' (by omega)
      obtain ⟨page, hread⟩ := hreadable (UInt32.ofNat start)
      by_cases hpage : page = []
      · exact ⟨[], .last _ hstart (hpage ▸ hread)⟩
      · obtain ⟨pages, hpages⟩ : ∃ pages, ReadsPages list f (start + f.pageSize) pages :=
          ih (by omega) (by omega)
        exact ⟨page :: pages, .page _ hstart hread hpage hpages⟩

theorem partitions {records : List ρ} (h : ShowsPages list f sorted shown)
    (hperm : sorted.Perm records) (hsorted : List.Forall₂ shown sorted pages.flatten →
      sorted.Pairwise before) (hpages : ReadsPages list f 0 pages) :
    Partitions f records shown before pages := by
  have hflatten := h.flatten hpages
  rw [List.drop_zero] at hflatten
  exact ⟨⟨sorted, hperm, hsorted hflatten, hflatten⟩, h.full hpages⟩

theorem reads {records : List ρ} (h : ShowsPages list f sorted shown) (hperm : sorted.Perm records)
    (hreadable : ∀ offset, ∃ page, list (f.startingAt offset) = .ok page) (n : Nat)
    (hbehind : records.length ≤ n * f.pageSize) (hrange : n * f.pageSize < UInt32.size) :
    ∃ pages, ReadsPages list f 0 pages :=
  h.exists_pages hreadable (n := n) (by rw [hperm.length_eq]; omega) (by omega)

end ShowsPages

namespace MemoryStore

/-- Created later, or at the same time under a greater identifier. -/
def Before (p q : Payout) : Prop :=
  q.createdAt.blt p.createdAt = true ∨ (p.createdAt = q.createdAt ∧ q.id.value < p.id.value)

theorem before_of_listOrder {p q : Payout} (h : listOrder p q = true) (hid : p.id ≠ q.id) :
    Before p q := by
  have hvalue : p.id.value ≠ q.id.value := fun heq => hid (PayoutId.value_injective heq)
  rw [listOrder_iff] at h
  rw [Before, Instant.blt_iff, Instant.eq_iff]
  omega

/-- The payouts that a listing takes its pages from. -/
def sorted (s : MemoryStore) (f : Filter) : List Payout :=
  (s.rows.filter f.accepts).mergeSort listOrder

theorem sorted_perm (s : MemoryStore) (f : Filter) :
    (s.sorted f).Perm (s.rows.filter f.accepts) :=
  List.mergeSort_perm ..

theorem pairwise_before (s : MemoryStore) (f : Filter) : (s.sorted f).Pairwise Before := by
  have hsorted : (s.sorted f).Pairwise fun p q => listOrder p q = true := by
    refine List.pairwise_mergeSort (fun p q r => ?_) (fun p q => ?_) _
    · simp only [listOrder_iff]
      omega
    · simp only [Bool.or_eq_true, listOrder_iff]
      omega
  have hids : ((s.sorted f).map Payout.id).Nodup :=
    (((s.sorted_perm f).map _).nodup_iff).mpr (s.ids_nodup.sublist (List.filter_sublist.map _))
  exact (hsorted.and (List.pairwise_map.mp hids)).imp fun ⟨h, hid⟩ => before_of_listOrder h hid

theorem showsPages (s : MemoryStore) (f : Filter) :
    ShowsPages (fun g => (s.answer (.list g)).1) f (s.sorted f) Eq := by
  intro offset page hread
  obtain rfl := Except.ok.inj hread
  exact List.forall₂_same.mpr fun _ _ => rfl

theorem listsByPages (s : MemoryStore) (f : Filter) :
    ListsByPages (fun g => (s.answer (.list g)).1) f (s.rows.filter f.accepts) Eq Before where
  partitions _ := (s.showsPages f).partitions (s.sorted_perm f) fun _ => s.pairwise_before f
  reads := (s.showsPages f).reads (s.sorted_perm f) fun _ => ⟨_, rfl⟩

end MemoryStore

namespace Quantity

variable {x y z : Quantity}

theorem unitsOf_le_iff {m n : Int64} : unitsOf m ≤ unitsOf n ↔ m ≤ n := by
  have hpos : (0 : Int) < Text.Scientific.unitsOfOne := by decide +kernel
  rw [unitsOf, unitsOf, Int.mul_le_mul_iff_of_pos_right hpos, Int64.le_iff_toInt_le]

theorem text_le_iff {s t : String} : (text s).le (text t) = true ↔ s ≤ t := by
  rw [le, Bool.not_eq_true', decide_eq_false_iff_not, not_lt]

theorem total (x y : Quantity) : x.le y = true ∨ y.le x = true := by
  cases x <;> cases y
  case text.text s t =>
    rw [text_le_iff, text_le_iff]
    exact le_total s t
  all_goals simp [le, ← unitsOf_le_iff, Int.le_total]

theorem trans (hxy : x.le y = true) (hyz : y.le z = true) : x.le z = true := by
  cases x <;> cases y <;> cases z
  case text.text.text s t u =>
    rw [text_le_iff] at *
    exact hxy.trans hyz
  all_goals
    simp only [le, ← unitsOf_le_iff, decide_eq_true_eq, reduceCtorEq] at *
  all_goals omega

end Quantity

theorem Status.eq_toText_of_parse {s : String} {status : Status}
    (h : Status.parse s = .ok status) : s = status.toText := by
  unfold Status.parse Status.read? at h
  split_ifs at h <;> cases h <;> assumption

theorem Kind.eq_toText_of_parse {s : String} {kind : Kind} (h : Kind.parse s = .ok kind) :
    s = kind.toText := by
  unfold Kind.parse Kind.read? at h
  split_ifs at h <;> cases h <;> assumption

namespace PayoutTable

variable {t : PayoutTable} {row : PayoutRow Quantity} {p : Payout}
  {rows : List (PayoutRow Quantity)}

/-- Created later, or at the same time under a greater identifier, both as they are stored. -/
def Before (a b : PayoutRow Quantity) : Prop :=
  ∃ m n : Int64, a.createdAt = .int m ∧ b.createdAt = .int n ∧ (n < m ∨ (n = m ∧ b.id < a.id))

theorem listOrder_iff {a b : PayoutRow Quantity} : listOrder a b = true ↔
    b.createdAt.le a.createdAt = true ∧ (a.createdAt.le b.createdAt = true → b.id ≤ a.id) := by
  simp only [listOrder, Bool.and_eq_true, Bool.or_eq_true, Bool.not_eq_true', ← Bool.not_eq_true,
    decide_eq_true_eq, not_lt, imp_iff_not_or]

theorem before_of_listOrder {a b : PayoutRow Quantity} {q : Payout} (h : listOrder a b = true)
    (hid : a.id ≠ b.id) (ha : Holds a p) (hb : Holds b q) : Before a b := by
  obtain ⟨r, rfl, -⟩ := ha
  obtain ⟨r', rfl, -⟩ := hb
  obtain ⟨hle, hids⟩ := listOrder_iff.mp h
  have hle : r'.createdAt ≤ r.createdAt := of_decide_eq_true hle
  refine ⟨r.createdAt, r'.createdAt, rfl, rfl, ?_⟩
  by_cases hge : r.createdAt ≤ r'.createdAt
  · exact .inr ⟨Int64.le_antisymm hle hge, lt_of_le_of_ne (hids (decide_eq_true hge)) hid.symm⟩
  · exact .inl (Int64.not_le.mp hge)

/-- The rows that a listing takes its pages from. -/
def sorted (t : PayoutTable) (f : Filter) : List (PayoutRow Quantity) :=
  (t.rows.filter (shows f)).mergeSort listOrder

theorem sorted_perm (t : PayoutTable) (f : Filter) :
    (t.sorted f).Perm (t.rows.filter (shows f)) :=
  List.mergeSort_perm ..

theorem pairwise_listOrder (t : PayoutTable) (f : Filter) :
    (t.sorted f).Pairwise fun a b => listOrder a b = true := by
  refine List.pairwise_mergeSort (fun a b c hab hbc => ?_) (fun a b => ?_) _
  · rw [listOrder_iff] at *
    refine ⟨Quantity.trans hbc.1 hab.1, fun hac => ?_⟩
    exact (hbc.2 (Quantity.trans hab.1 hac)).trans (hab.2 (Quantity.trans hac hbc.1))
  · rw [Bool.or_eq_true, listOrder_iff, listOrder_iff]
    have hcreated := Quantity.total a.createdAt b.createdAt
    have hids := le_total a.id b.id
    tauto

theorem pairwise_before {f : Filter} (h : ∀ row ∈ t.sorted f, ∃ p, Holds row p) :
    (t.sorted f).Pairwise Before := by
  have hids : ((t.sorted f).map PayoutRow.id).Nodup :=
    (((t.sorted_perm f).map _).nodup_iff).mpr (t.ids_nodup.sublist (List.filter_sublist.map _))
  refine ((t.pairwise_listOrder f).and (List.pairwise_map.mp hids)).imp_of_mem ?_
  intro a b ha hb ⟨horder, hid⟩
  obtain ⟨p, hp⟩ := h a ha
  obtain ⟨q, hq⟩ := h b hb
  exact before_of_listOrder horder hid hp hq

theorem showsPages (t : PayoutTable) (f : Filter) :
    ShowsPages (fun g => (t.answer (.list g)).1) f (t.sorted f) Holds := by
  intro _ _ hread
  exact forall₂_of_decode hread

/-- Whatever the rows hold, pages that are read to the end are a partition. -/
theorem partitions (t : PayoutTable) (f : Filter) (pages : List (List Payout))
    (hpages : ReadsPages (fun g => (t.answer (.list g)).1) f 0 pages) :
    Partitions f (t.rows.filter (shows f)) Holds Before pages := by
  refine (t.showsPages f).partitions (t.sorted_perm f) (fun hshown => ?_) hpages
  refine pairwise_before fun row hrow => ?_
  obtain ⟨p, -, hp⟩ := exists_of_forall₂ hshown.flip hrow
  exact ⟨p, hp⟩

theorem exists_mapM {ε α β : Type} {f : α → Except ε β} {as : List α}
    (h : ∀ a ∈ as, ∃ b, f a = .ok b) : ∃ bs, as.mapM f = .ok bs := by
  induction as with
  | nil => exact ⟨[], rfl⟩
  | cons a as ih =>
      obtain ⟨⟨b, hb⟩, has⟩ := List.forall_mem_cons.mp h
      obtain ⟨bs, hbs⟩ := ih has
      exact ⟨b :: bs, by rw [List.mapM_cons, hb, hbs]; rfl⟩

theorem Holds.integers (h : Holds row p) : ∃ r, integers row = .ok r ∧ r.toPayout = .ok p := by
  obtain ⟨r, rfl, hr⟩ := h
  refine ⟨r, ?_, PayoutRow.toPayout_eq_ok_iff.mpr hr⟩
  rw [PayoutTable.integers, PayoutRow.integers_map_int, Except.mapError]

theorem exists_decode (h : ∀ row ∈ rows, ∃ p, Holds row p) : ∃ ps, decode rows = .ok ps := by
  have hintegers : ∀ row ∈ rows, ∃ r, integers row = .ok r := by
    intro row hrow
    obtain ⟨p, hp⟩ := h row hrow
    exact hp.integers.imp fun _ => And.left
  obtain ⟨rs, hrs⟩ := exists_mapM hintegers
  have hpayouts : ∀ r ∈ rs, ∃ p, r.toPayout = .ok p := by
    intro r hr
    obtain ⟨row, hrow, hread⟩ := exists_of_forall₂ (forall₂_of_mapM hrs) hr
    obtain ⟨p, hp⟩ := h row hrow
    obtain ⟨r', hread', hpayout⟩ := hp.integers
    obtain rfl := Except.ok.inj (hread.symm.trans hread')
    exact ⟨p, hpayout⟩
  obtain ⟨ps, hps⟩ := exists_mapM hpayouts
  exact ⟨ps, PayoutRow.bind_eq_ok_iff.mpr ⟨rs, hrs, hps⟩⟩

theorem exists_of_mapM_error {ε α β : Type} {f : α → Except ε β} {as : List α} {e : ε}
    (h : as.mapM f = .error e) : ∃ a ∈ as, f a = .error e := by
  induction as with
  | nil => cases h
  | cons a as ih =>
      rw [List.mapM_cons] at h
      cases ha : f a with
      | error e' =>
          rw [ha] at h
          obtain rfl : e' = e := Except.error.inj h
          exact ⟨a, List.mem_cons_self, ha⟩
      | ok b =>
          cases has : as.mapM f with
          | error e' =>
              rw [ha, has] at h
              obtain rfl : e' = e := Except.error.inj h
              obtain ⟨bad, hbad, herror⟩ := ih has
              exact ⟨bad, List.mem_cons_of_mem a hbad, herror⟩
          | ok bs =>
              rw [ha, has] at h
              cases h

theorem decode_singleton : decode [row] = (do return [← (← integers row).toPayout]) := by
  rw [decode, List.mapM_cons, List.mapM_nil]
  cases hr : integers row with
  | error e => rfl
  | ok r =>
      show [r].mapM PayoutRow.toPayout = _
      rw [List.mapM_cons, List.mapM_nil]
      rfl

theorem exists_of_decode_error {e : Error} (h : decode rows = .error e) :
    ∃ row ∈ rows, decode [row] = .error e := by
  unfold decode at h
  cases hintegers : rows.mapM integers with
  | error e' =>
      rw [hintegers] at h
      obtain rfl : e' = e := Except.error.inj h
      obtain ⟨row, hrow, herror⟩ := exists_of_mapM_error hintegers
      refine ⟨row, hrow, ?_⟩
      rw [decode_singleton, herror]
      rfl
  | ok rs =>
      rw [hintegers] at h
      obtain ⟨r, hr, herror⟩ := exists_of_mapM_error (h : rs.mapM PayoutRow.toPayout = .error e)
      obtain ⟨row, hrow, hread⟩ := exists_of_forall₂ (forall₂_of_mapM hintegers) hr
      refine ⟨row, hrow, ?_⟩
      rw [decode_singleton, hread]
      show (do return [← r.toPayout]) = _
      rw [herror]
      rfl

/-- The rows of the page at an offset. -/
def pageRows (t : PayoutTable) (f : Filter) (offset : UInt32) : List (PayoutRow Quantity) :=
  ((t.sorted f).drop offset.toNat).take f.pageSize

theorem list_eq_decode (t : PayoutTable) (f : Filter) (offset : UInt32) :
    (t.answer (.list (f.startingAt offset))).1 = decode (t.pageRows f offset) :=
  rfl

theorem mem_pageRows {f : Filter} {k : Nat} {offset : UInt32} (hrow : (t.sorted f)[k]? = some row)
    (hbegin : offset.toNat ≤ k) (hend : k < offset.toNat + f.pageSize) :
    row ∈ t.pageRows f offset := by
  refine List.mem_of_getElem? (i := k - offset.toNat) ?_
  rw [pageRows, List.getElem?_take_of_lt (by omega), List.getElem?_drop,
    Nat.add_sub_cancel' hbegin, hrow]

theorem list_error {f : Filter} (hrow : row ∈ t.rows.filter (shows f)) (h : ∀ p, ¬ Holds row p) :
    ∃ k, (t.sorted f)[k]? = some row ∧
      ∀ offset : UInt32, offset.toNat ≤ k → k < offset.toNat + f.pageSize →
        ∃ bad ∈ t.pageRows f offset, ∃ e, decode [bad] = .error e ∧
          (t.answer (.list (f.startingAt offset))).1 = .error e := by
  rw [← (t.sorted_perm f).mem_iff] at hrow
  obtain ⟨k, hk⟩ := List.mem_iff_getElem?.mp hrow
  refine ⟨k, hk, fun offset hbegin hend => ?_⟩
  rw [list_eq_decode]
  cases hpage : decode (t.pageRows f offset) with
  | error e =>
      obtain ⟨bad, hbad, herror⟩ := exists_of_decode_error hpage
      exact ⟨bad, hbad, e, herror, rfl⟩
  | ok ps =>
      obtain ⟨p, -, hp⟩ := exists_payout_of_decode hpage (mem_pageRows hk hbegin hend)
      exact absurd hp (h p)

theorem listsByPages {f : Filter} (h : ∀ row ∈ t.rows.filter (shows f), ∃ p, Holds row p) :
    ListsByPages (fun g => (t.answer (.list g)).1) f (t.rows.filter (shows f)) Holds Before where
  partitions := t.partitions f
  reads := by
    refine (t.showsPages f).reads (t.sorted_perm f) fun offset => exists_decode fun row hrow => ?_
    exact h row ((t.sorted_perm f).mem_iff.mp (List.mem_of_mem_drop (List.mem_of_mem_take hrow)))

theorem shows_congr {a b : PayoutRow Quantity} (hstatus : a.status = b.status)
    (hrecipient : a.recipient = b.recipient) (hkind : a.kind = b.kind) (f : Filter) :
    shows f a = shows f b := by
  rw [shows, shows, hstatus, hrecipient, hkind]

theorem shows_of_holds (h : Holds row p) (f : Filter) : shows f row = f.accepts p := by
  obtain ⟨r, rfl, hr⟩ := h
  rw [← shows_stored]
  exact shows_congr (Status.eq_toText_of_parse hr.status) hr.recipient
    (Kind.eq_toText_of_parse hr.kind) f

end PayoutTable

/-- A listing shows what a filter accepts page by page: in memory always, and from the table if all
rows that are accepted denote payouts. -/
theorem lists_by_pages (f : Filter) :
    (∀ s : MemoryStore, ListsByPages (fun g => (s.answer (.list g)).1) f
      (s.rows.filter f.accepts) Eq MemoryStore.Before) ∧
    (∀ t : PayoutTable,
      (∀ row ∈ t.rows.filter (PayoutTable.shows f), ∃ p, PayoutTable.Holds row p) →
      ListsByPages (fun g => (t.answer (.list g)).1) f (t.rows.filter (PayoutTable.shows f))
        PayoutTable.Holds PayoutTable.Before) ∧
    (∀ (t : PayoutTable) (pages : List (List Payout)),
      ReadsPages (fun g => (t.answer (.list g)).1) f 0 pages →
      Partitions f (t.rows.filter (PayoutTable.shows f)) PayoutTable.Holds PayoutTable.Before
        pages) ∧
    (∀ (t : PayoutTable), ∀ row ∈ t.rows.filter (PayoutTable.shows f),
      (∀ p, ¬ PayoutTable.Holds row p) →
      ∃ k, (t.sorted f)[k]? = some row ∧
        ∀ offset : UInt32, offset.toNat ≤ k → k < offset.toNat + f.pageSize →
          ∃ bad ∈ t.pageRows f offset, ∃ e, PayoutTable.decode [bad] = .error e ∧
            (t.answer (.list (f.startingAt offset))).1 = .error e) ∧
    ∀ row p, PayoutTable.Holds row p → PayoutTable.shows f row = f.accepts p :=
  ⟨fun s => s.listsByPages f, fun _ => PayoutTable.listsByPages, fun t => t.partitions f,
    fun _ _ => PayoutTable.list_error, fun _ _ h => PayoutTable.shows_of_holds h f⟩

namespace PayoutTable

/-- The sample and another payout, both created at the same time. -/
def samplePair : PayoutTable where
  rows := [stored Payout.sampleDue, stored { Payout.sampleAgain with submissionRef := none }]
  ids_nodup := by
    have hids : [Payout.sampleDue.id.toText, Payout.sampleAgain.id.toText].Nodup := by decide
    exact hids
  submissions_nodup := by decide

theorem lists_samplePair :
    let f : Filter := ⟨none, none, some .referral, some 1, none⟩
    let list := fun g => (samplePair.answer (.list g)).1
    samplePair.rows.filter (shows f) = samplePair.rows ∧
      (∀ row ∈ samplePair.rows.filter (shows f), ∃ p, Holds row p) ∧
      ∃ pages, ReadsPages list f 0 pages ∧ Partitions f samplePair.rows Holds Before pages := by
  intro f list
  have hall : samplePair.rows.filter (shows f) = samplePair.rows := by decide
  have hholds : ∀ row ∈ samplePair.rows, ∃ p, Holds row p := by
    refine List.forall_mem_cons.mpr ⟨⟨_, holds_stored (by decide) (by decide)⟩, ?_⟩
    exact List.forall_mem_singleton.mpr ⟨_, holds_stored (by decide) (by decide)⟩
  rw [hall]
  obtain ⟨hpartitions, hreads⟩ := (lists_by_pages f).2.1 samplePair (hall ▸ hholds)
  obtain ⟨pages, hpages⟩ := hreads 2 (by decide) (by decide)
  exact ⟨rfl, hholds, pages, hpages, hall ▸ hpartitions pages hpages⟩

/-- The row of the sample, with an amount that is not a number. -/
def sampleMisspelt : PayoutTable where
  rows := [{ stored Payout.sampleDue with amount := "abc" }]
  ids_nodup := List.nodup_singleton _
  submissions_nodup := List.nodup_singleton "sub/1"

/-- A listing that comes to a row without a payout ends there. -/
theorem not_lists_sampleMisspelt :
    ¬ ∀ (t : PayoutTable) (f : Filter), ListsByPages (fun g => (t.answer (.list g)).1) f
      (t.rows.filter (shows f)) Holds Before := by
  intro h
  obtain ⟨hpartitions, hreads⟩ := h sampleMisspelt ⟨none, none, none, none, none⟩
  obtain ⟨pages, hpages⟩ := hreads 1 (by decide) (by decide)
  obtain ⟨sorted, hperm, -, hshown⟩ := (hpartitions pages hpages).shown
  have hrow : { stored Payout.sampleDue with amount := "abc" } ∈ sorted :=
    hperm.mem_iff.mpr List.mem_cons_self
  obtain ⟨p, -, r, hr, hdenotes⟩ := exists_of_forall₂ hshown.flip hrow
  have hread : PayoutRow.toAmount "abc" = .ok p.amount := by
    have hamount : "abc" = r.amount := congrArg PayoutRow.amount hr
    rw [hamount, hdenotes.amount]
  cases hread

end PayoutTable

end Disburse
