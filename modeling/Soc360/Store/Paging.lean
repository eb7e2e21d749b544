import Mathlib.Data.List.Nodup
import Mathlib.Data.List.Sort
import Mathlib.Order.Basic
import Mathlib.Tactic.Common

set_option autoImplicit false

/-! Pages of a query that fixes the order of its rows only up to ties, each page a query of its
own. -/

namespace Paging

section

variable {Row Rank : Type} [LinearOrder Rank]

/-- What an `ORDER BY` may give: the rows by rank, and rows of one rank in any order. -/
structure Ordered (rank : Row → Rank) (rows result : List Row) : Prop where
  perm : result.Perm rows
  sorted : result.Pairwise fun first second => rank first ≤ rank second

def page (ordered : List Row) (limit offset : Nat) : List Row := (ordered.drop offset).take limit

/-- What the query of one page may answer. -/
def Answers (rank : Row → Rank) (rows : List Row) (limit offset : Nat) (result : List Row) : Prop :=
  ∃ ordered, Ordered rank rows ordered ∧ result = page ordered limit offset

/-- The pages at the offsets 0, `limit`, `2 * limit` and so on. -/
def pages (answers : Nat → List Row) (count : Nat) : List Row := (List.range count).flatMap answers

/-- Whatever each query answers, the pages together hold each row once. -/
def Covers (rank : Row → Rank) (rows : List Row) (limit : Nat) : Prop :=
  ∀ answers : Nat → List Row, (∀ index, Answers rank rows limit (index * limit) (answers index)) →
    ∀ count, rows.length ≤ count * limit → (pages answers count).Perm rows

/-- The rows that come before every row of the rank. -/
def earlier (rank : Row → Rank) (rows : List Row) (row : Row) : Nat :=
  rows.countP fun other => rank other < rank row

/-- The rows that come before every row of a later rank. -/
def upTo (rank : Row → Rank) (rows : List Row) (row : Row) : Nat :=
  rows.countP fun other => rank other ≤ rank row

/-- No rows of one rank lie on both sides of the position. -/
def Unbroken (rank : Row → Rank) (rows : List Row) (position : Nat) : Prop :=
  ∀ row ∈ rows, position ≤ earlier rank rows row ∨ upTo rank rows row ≤ position

/-- Rows of one rank are on one page. -/
def TiesTogether (rank : Row → Rank) (rows : List Row) (limit : Nat) : Prop :=
  ∀ index, Unbroken rank rows (index * limit)

variable {rank : Row → Rank} {rows ordered : List Row} {limit position count : Nat}

theorem pages_succ (answers : Nat → List Row) :
    pages answers (count + 1) = pages answers count ++ answers count := by
  rw [pages, pages, List.range_succ, List.flatMap_append, List.flatMap_singleton]

theorem Ordered.split (order : Ordered rank rows ordered) {front back : List Row}
    (shape : ordered = front ++ back) :
    ∀ first ∈ front, ∀ second ∈ back, rank first ≤ rank second := by
  have sorted := order.sorted
  rw [shape] at sorted
  exact (List.pairwise_append.mp sorted).2.2

/-- The rows before a row in the answer are as many as the earlier ones at least. -/
theorem Ordered.earlier_le (order : Ordered rank rows ordered) {front back : List Row} {row : Row}
    (shape : ordered = front ++ row :: back) : earlier rank rows row ≤ front.length := by
  have none_later : (row :: back).countP (fun other => rank other < rank row) = 0 := by
    apply List.countP_eq_zero.mpr
    intro other member
    have sorted := order.sorted
    rw [shape] at sorted
    have after := (List.pairwise_append.mp sorted).2.1
    rcases List.mem_cons.mp member with rfl | later
    · simp
    · have above := (List.pairwise_cons.mp after).1 other later
      simpa using above
  rw [earlier, ← order.perm.countP_eq, shape, List.countP_append, none_later, Nat.add_zero]
  exact List.countP_le_length

/-- And with the row itself they are as many as those up to its rank at most. -/
theorem Ordered.lt_upTo (order : Ordered rank rows ordered) {front back : List Row} {row : Row}
    (shape : ordered = front ++ row :: back) : front.length < upTo rank rows row := by
  have all_before : front.countP (fun other => rank other ≤ rank row) = front.length := by
    apply List.countP_eq_length.mpr
    intro other member
    exact decide_eq_true (order.split shape other member row List.mem_cons_self)
  rw [upTo, ← order.perm.countP_eq, shape, List.countP_append, all_before, List.countP_cons_of_pos]
  · omega
  · exact decide_eq_true le_rfl

/-- Where no ties are broken, the rows before a position are the same in every answer. -/
theorem Ordered.take_perm (order : Ordered rank rows ordered)
    (unbroken : Unbroken rank rows position) :
    (ordered.take position).Perm (rows.filter fun row => upTo rank rows row ≤ position) := by
  have kept : ordered.filter (fun row => upTo rank rows row ≤ position) =
      ordered.take position := by
    conv_lhs => rw [← List.take_append_drop position ordered]
    rw [List.filter_append]
    have front : (ordered.take position).filter (fun row => upTo rank rows row ≤ position) =
        ordered.take position := by
      apply List.filter_eq_self.mpr
      intro row member
      obtain ⟨before, after, shape⟩ := List.append_of_mem member
      have whole : ordered = before ++ row :: (after ++ ordered.drop position) := by
        conv_lhs => rw [← List.take_append_drop position ordered, shape]
        rw [List.append_assoc, List.cons_append]
      have few := order.earlier_le whole
      have short : before.length < position := by
        have length := congrArg List.length shape
        rw [List.length_take, List.length_append, List.length_cons] at length
        omega
      have inside : row ∈ rows := order.perm.mem_iff.mp (List.mem_of_mem_take member)
      apply decide_eq_true
      rcases unbroken row inside with late | early
      · omega
      · exact early
    have back : (ordered.drop position).filter (fun row => upTo rank rows row ≤ position) = [] := by
      apply List.filter_eq_nil_iff.mpr
      intro row member
      obtain ⟨before, after, shape⟩ := List.append_of_mem member
      have whole : ordered = (ordered.take position ++ before) ++ row :: after := by
        conv_lhs => rw [← List.take_append_drop position ordered, shape]
        rw [List.append_assoc]
      have many := order.lt_upTo whole
      have long : position ≤ (ordered.take position ++ before).length := by
        have length := congrArg List.length shape
        rw [List.length_drop, List.length_append, List.length_cons] at length
        rw [List.length_append, List.length_take]
        omega
      simp only [decide_eq_true_eq, not_le]
      omega
    rw [front, back, List.append_nil]
  rw [← kept]
  exact order.perm.filter _

theorem upTo_le_length (rank : Row → Rank) (rows : List Row) (row : Row) :
    upTo rank rows row ≤ rows.length := List.countP_le_length

/-- Page after page, the rows that are whole within the pages so far. -/
theorem pages_perm (together : TiesTogether rank rows limit) {answers : Nat → List Row}
    (answered : ∀ index, Answers rank rows limit (index * limit) (answers index)) :
    (pages answers count).Perm (rows.filter fun row => upTo rank rows row ≤ count * limit) := by
  induction count with
  | zero =>
      have nobody : rows.filter (fun row => upTo rank rows row ≤ 0 * limit) = [] := by
        apply List.filter_eq_nil_iff.mpr
        intro row member
        have itself : 0 < upTo rank rows row :=
          List.countP_pos_iff.mpr ⟨row, member, decide_eq_true le_rfl⟩
        simp only [decide_eq_true_eq]
        omega
      rw [nobody]
      exact List.Perm.refl []
  | succ count ih =>
      obtain ⟨ordered, order, answer⟩ := answered count
      have before := order.take_perm (together count)
      have through := order.take_perm (together (count + 1))
      rw [Nat.succ_mul, List.take_add] at through
      rw [pages_succ, answer, page, Nat.succ_mul]
      exact ((ih.trans before.symm).append_right _).trans through

theorem covers_of_together (together : TiesTogether rank rows limit) : Covers rank rows limit := by
  intro answers answered count enough
  have all : rows.filter (fun row => upTo rank rows row ≤ count * limit) = rows := by
    apply List.filter_eq_self.mpr
    intro row _
    have within := upTo_le_length rank rows row
    exact decide_eq_true (by omega)
  have covered : (pages answers count).Perm
      (rows.filter fun row => upTo rank rows row ≤ count * limit) := pages_perm together answered
  rw [all] at covered
  exact covered

/-- Where no two rows have one rank, no ties are broken. -/
theorem together_of_injective (distinct : rows.Nodup)
    (injective : ∀ first ∈ rows, ∀ second ∈ rows, rank first = rank second → first = second) :
    TiesTogether rank rows limit := by
  intro index row member
  have alone : upTo rank rows row ≤ earlier rank rows row + 1 := by
    obtain ⟨front, back, shape⟩ := List.append_of_mem member
    have others (other : Row) (inside : other ∈ front ++ back) :
        decide (rank other ≤ rank row) = decide (rank other < rank row) := by
      have apart : other ≠ row := by
        rintro rfl
        rw [shape] at distinct
        exact (List.nodup_cons.mp (List.nodup_middle.mp distinct)).1 inside
      have listed : other ∈ rows := by
        rw [shape]
        rcases List.mem_append.mp inside with before | after
        · exact List.mem_append_left _ before
        · exact List.mem_append_right _ (List.mem_cons_of_mem _ after)
      have unequal : rank other ≠ rank row := fun same => apart (injective other listed row member same)
      exact decide_eq_decide.mpr ⟨fun below => lt_of_le_of_ne below unequal, le_of_lt⟩
    have sides : (front ++ back).countP (fun other => rank other ≤ rank row) =
        (front ++ back).countP fun other => rank other < rank row :=
      List.countP_congr fun other inside => by rw [others other inside]
    rw [upTo, earlier, shape, List.perm_middle.countP_eq, List.perm_middle.countP_eq,
      List.countP_cons, List.countP_cons, sides]
    split <;> omega
  by_cases late : index * limit ≤ earlier rank rows row
  · exact .inl late
  · exact .inr (by omega)

/-- A position that breaks ties lies between two rows of one rank, in every answer. -/
theorem Ordered.tied_at (order : Ordered rank rows ordered) {row : Row} {front back : List Row}
    {first second : Row} (shape : ordered = front ++ first :: second :: back)
    (early : earlier rank rows row < front.length + 1)
    (late : front.length + 1 < upTo rank rows row) : rank first = rank second := by
  have above : rank row ≤ rank first := by
    by_contra below
    have counted : (front ++ [first]).countP (fun other => rank other < rank row) =
        (front ++ [first]).length := by
      apply List.countP_eq_length.mpr
      intro other member
      apply decide_eq_true
      rcases List.mem_append.mp member with before | here
      · exact lt_of_le_of_lt (order.split shape other before first List.mem_cons_self)
          (not_le.mp below)
      · rw [List.mem_singleton.mp here]
        exact not_le.mp below
    have few : (front ++ [first]).length ≤ earlier rank rows row := by
      rw [earlier, ← order.perm.countP_eq, ← counted]
      apply List.Sublist.countP_le
      rw [shape, List.append_cons front first (second :: back)]
      exact List.sublist_append_left _ _
    rw [List.length_append, List.length_singleton] at few
    omega
  have below : rank second ≤ rank row := by
    by_contra above'
    have whole : ordered = (front ++ [first]) ++ second :: back := by
      rw [shape, List.append_cons front first]
    have nobody : (second :: back).countP (fun other => rank other ≤ rank row) = 0 := by
      apply List.countP_eq_zero.mpr
      intro other member
      have sorted := order.sorted
      rw [whole] at sorted
      have after := (List.pairwise_append.mp sorted).2.1
      simp only [decide_eq_true_eq, not_le]
      rcases List.mem_cons.mp member with rfl | later
      · exact not_le.mp above'
      · exact lt_of_lt_of_le (not_le.mp above') ((List.pairwise_cons.mp after).1 other later)
    have many : upTo rank rows row ≤ (front ++ [first]).length := by
      rw [upTo, ← order.perm.countP_eq, whole, List.countP_append, nobody, Nat.add_zero]
      exact List.countP_le_length
    rw [List.length_append, List.length_singleton] at many
    omega
  have next : rank first ≤ rank second := by
    have sorted := order.sorted
    rw [shape] at sorted
    exact (List.pairwise_cons.mp (List.pairwise_append.mp sorted).2.1).1 second List.mem_cons_self
  exact le_antisymm next (below.trans above)

/-- Two neighbours of one rank may change places. -/
theorem Ordered.swap {front back : List Row} {first second : Row}
    (order : Ordered rank rows (front ++ first :: second :: back))
    (tied : rank first = rank second) :
    Ordered rank rows (front ++ second :: first :: back) := by
  refine ⟨((List.Perm.swap first second back).append_left front).trans order.perm, ?_⟩
  obtain ⟨before, after, across⟩ := List.pairwise_append.mp order.sorted
  obtain ⟨least, rest⟩ := List.pairwise_cons.mp after
  obtain ⟨least', rest'⟩ := List.pairwise_cons.mp rest
  refine List.pairwise_append.mpr ⟨before, ?_, ?_⟩
  · refine List.pairwise_cons.mpr ⟨?_, List.pairwise_cons.mpr ⟨?_, rest'⟩⟩
    · intro other member
      rcases List.mem_cons.mp member with rfl | later
      · exact le_of_eq tied.symm
      · exact least' other later
    · intro other member
      exact least other (List.mem_cons_of_mem _ member)
  · intro other inside last member
    refine across other inside last ?_
    simp only [List.mem_cons] at member ⊢
    tauto

theorem exists_ordered (rank : Row → Rank) (rows : List Row) :
    ∃ ordered, Ordered rank rows ordered := by
  have total : Std.Total fun first second : Row => rank first ≤ rank second :=
    ⟨fun first second => le_total (rank first) (rank second)⟩
  have transitive : IsTrans Row fun first second => rank first ≤ rank second :=
    ⟨fun _ _ _ before after => before.trans after⟩
  exact ⟨rows.insertionSort fun first second => rank first ≤ rank second,
    List.perm_insertionSort _ _, List.pairwise_insertionSort _ _⟩

theorem pages_sublist (answers : Nat → List Row) {more : Nat} (fewer : count ≤ more) :
    (pages answers count).Sublist (pages answers more) := by
  induction more, fewer using Nat.le_induction with
  | base => exact List.Sublist.refl _
  | succ more _ ih =>
      rw [pages_succ]
      exact ih.trans (List.sublist_append_left _ _)

theorem mem_page {row : Row} {offset : Nat} (position : Nat) (at_ : ordered[position]? = some row)
    (lower : offset ≤ position) (upper : position < offset + limit) :
    row ∈ page ordered limit offset := by
  apply List.mem_of_getElem? (i := position - offset)
  rw [page, List.getElem?_take_of_lt (by omega), List.getElem?_drop,
    show offset + (position - offset) = position by omega]
  exact at_

theorem neighbours {position : Nat} (within : position + 1 < ordered.length) :
    ∃ front first second back, ordered = front ++ first :: second :: back ∧
      front.length = position := by
  refine ⟨ordered.take position, ordered[position], ordered[position + 1],
    ordered.drop (position + 2), ?_, List.length_take_of_le (by omega)⟩
  rw [List.getElem_cons_drop, List.getElem_cons_drop, List.take_append_drop]

/-- Ties that a page boundary breaks may put one row on both pages. -/
theorem together_of_covers (distinct : rows.Nodup) (positive : 0 < limit)
    (covers : Covers rank rows limit) : TiesTogether rank rows limit := by
  intro index row member
  by_contra broken
  rw [not_or, not_le, not_le] at broken
  obtain ⟨early, late⟩ := broken
  obtain ⟨ordered, order⟩ := exists_ordered rank rows
  have length := order.perm.length_eq
  have within := upTo_le_length rank rows row
  obtain ⟨previous, rfl⟩ : ∃ previous, index = previous + 1 := by
    cases index with
    | zero =>
        rw [Nat.zero_mul] at early
        exact absurd early (Nat.not_lt_zero _)
    | succ previous => exact ⟨previous, rfl⟩
  rw [Nat.succ_mul] at early late
  obtain ⟨front, first, second, back, shape, position⟩ :=
    @neighbours _ ordered (previous * limit + limit - 1) (by omega)
  have tied : rank first = rank second := by
    have before : earlier rank rows row < front.length + 1 := by
      rw [position]
      omega
    have after : front.length + 1 < upTo rank rows row := by
      rw [position]
      omega
    exact order.tied_at shape before after
  rw [shape] at order
  -- the row before the boundary comes again after it
  have swapped := order.swap tied
  obtain ⟨answers, answers_eq⟩ : ∃ answers : Nat → List Row, answers = fun index =>
      page (if index = previous + 1 then front ++ second :: first :: back
        else front ++ first :: second :: back) limit (index * limit) := ⟨_, rfl⟩
  have answered (index : Nat) : Answers rank rows limit (index * limit) (answers index) := by
    rw [answers_eq]
    refine ⟨_, ?_, rfl⟩
    split
    · exact swapped
    · exact order
  have enough : rows.length ≤ (rows.length + previous + 2) * limit :=
    (by omega : rows.length ≤ rows.length + previous + 2).trans (Nat.le_mul_of_pos_right _ positive)
  have covered := covers answers answered (rows.length + previous + 2) enough
  have once : (pages answers (previous + 1) ++ answers (previous + 1)).Nodup := by
    rw [← pages_succ]
    exact (covered.nodup_iff.mpr distinct).sublist (pages_sublist answers (by omega))
  have earlier_page : first ∈ answers previous := by
    rw [answers_eq]
    simp only [if_neg (by omega : ¬previous = previous + 1)]
    apply mem_page front.length
    · rw [List.getElem?_append_right le_rfl, Nat.sub_self]
      rfl
    · omega
    · omega
  have later_page : first ∈ answers (previous + 1) := by
    rw [answers_eq]
    simp only [if_true, Nat.succ_mul]
    apply mem_page (front.length + 1)
    · rw [List.getElem?_append_right (by omega), Nat.add_sub_cancel_left]
      rfl
    · omega
    · omega
  have before : first ∈ pages answers (previous + 1) := by
    rw [pages_succ]
    exact List.mem_append_right _ earlier_page
  exact (List.nodup_append.mp once).2.2 first before first later_page rfl

/-- The pages hold each row once, whatever is answered, if and only if no page boundary breaks
ties. -/
theorem covers_iff (distinct : rows.Nodup) (positive : 0 < limit) :
    Covers rank rows limit ↔ TiesTogether rank rows limit :=
  ⟨together_of_covers distinct positive, covers_of_together⟩

/-- Where no two rows have one rank, there is one order. -/
theorem Ordered.unique {other : List Row} (order : Ordered rank rows ordered)
    (order' : Ordered rank rows other)
    (injective : ∀ first ∈ rows, ∀ second ∈ rows, rank first = rank second → first = second) :
    ordered = other := by
  refine List.Perm.eq_of_pairwise ?_ order.sorted order'.sorted (order.perm.trans order'.perm.symm)
  intro first second member member' below above
  exact injective first (order.perm.mem_iff.mp member) second (order'.perm.mem_iff.mp member')
    (le_antisymm below above)

end

end Paging
