import GolutraAgent.Library.Paging
import GolutraAgent.Store.Database
import Mathlib.Data.Prod.Lex
import Mathlib.Data.String.Basic

/-
  This file models the pages of the thread list. Instants and identifiers are
  stored as text, and compared as text. How an instant is rendered is a
  parameter: the column and a cursor render it alike.

  Main declarations:
    * `listThreadsPage_enumerates`
-/

namespace GolutraAgent.Store

structure SessionCursor where
  recencyAt : Timestamp
  threadId : ThreadId

def ThreadRecord.cursor (thread : ThreadRecord) : SessionCursor where
  recencyAt := thread.recencyAt
  threadId := thread.threadId

def ThreadRecord.listed (workspaceRoot : Option String) (thread : ThreadRecord) : Bool :=
  !thread.archived && !thread.removed && (workspaceRoot.isNone ||
      decide (thread.workspaceRoot = workspaceRoot))

variable (toRfc3339 : Timestamp → String)

def pageKey (cursor : SessionCursor) : String ×ₗ String :=
  toLex (toRfc3339 cursor.recencyAt, cursor.threadId.uuid.toText)

def SessionCursor.precedes (cursor : SessionCursor) (thread : ThreadRecord) : Bool :=
  let cursorAt := toRfc3339 cursor.recencyAt
  let recencyAt := toRfc3339 thread.recencyAt
  decide (recencyAt < cursorAt) || decide (recencyAt = cursorAt) &&
      decide (thread.threadId.uuid.toText < cursor.threadId.uuid.toText)

def listThreadsPage (database : Database) (workspaceRoot : Option String)
    (limit : Nat) (cursor : Option SessionCursor) : List ThreadRecord :=
  (Paging.descending (fun thread => pageKey toRfc3339 thread.cursor)
    (database.threads.rows.filter (fun thread =>
      thread.listed workspaceRoot && cursor.all (·.precedes toRfc3339 thread)))).take limit

/- Ask for pages until one is short. -/
def listThreads (database : Database) (workspaceRoot : Option String)
    (limit calls : Nat) : Option (List ThreadRecord) :=
  Paging.pages (listThreadsPage toRfc3339 database workspaceRoot limit)
    ThreadRecord.cursor limit calls none

theorem precedes_eq (cursor : SessionCursor) (thread : ThreadRecord) :
    cursor.precedes toRfc3339 thread = decide (pageKey toRfc3339 thread.cursor <
        pageKey toRfc3339 cursor) := by
  simp [SessionCursor.precedes, pageKey, ThreadRecord.cursor, Prod.Lex.toLex_lt_toLex]

/- No two threads have the same place in the list. -/
theorem pageKey_distinct (database : Database) (selects : ThreadRecord → Bool) :
    ((database.threads.rows.filter selects).map (fun thread =>
      pageKey toRfc3339 thread.cursor)).Nodup := by
  have hIds : ((database.threads.rows.filter selects).map ThreadRecord.threadId).Nodup :=
    (List.filter_sublist.map _).nodup database.threads.distinct
  -- The text of an identifier can be read back.
  refine List.Nodup.of_map (fun key : String ×ₗ String =>
    (Uuid.ofText (ofLex key).2).map (@Id.mk .thread)) ?_
  simpa [Function.comp_def, pageKey, ThreadRecord.cursor] using hIds.map (Option.some_injective _)

/-
  The pages list every thread of the workspace once, in the order of the pages.
-/
theorem listThreadsPage_enumerates (database : Database)
    (workspaceRoot : Option String) {limit : Nat} (hLimit : 0 < limit) :
    ∃ threads : List ThreadRecord, (∀ calls, threads.length < calls →
        listThreads toRfc3339 database workspaceRoot limit calls = some threads) ∧
      threads.Perm (database.threads.rows.filter (·.listed workspaceRoot)) ∧
      threads.Pairwise (fun left right =>
        pageKey toRfc3339 right.cursor < pageKey toRfc3339 left.cursor) := by
  have hDistinct := pageKey_distinct toRfc3339 database (·.listed workspaceRoot)
  refine ⟨_, fun calls hCalls => ?_, Paging.perm_descending, Paging.descending_strict hDistinct⟩
  have hAll : ∀ rows : List ThreadRecord, Paging.below
      (fun thread => pageKey toRfc3339 thread.cursor) none rows = rows :=
    fun rows => List.filter_eq_self.mpr (fun _ _ => rfl)
  have hPages := @Paging.pages_eq _ _ _ _ _ _ hDistinct
    (listThreadsPage toRfc3339 database workspaceRoot limit) ThreadRecord.cursor
    (pageKey toRfc3339) limit calls none (fun _ => rfl) (by
      intro cursor
      rw [listThreadsPage, Paging.below]
      simp [Option.all_map, precedes_eq, Bool.and_comm])
    hLimit
  rw [Option.map_none, hAll] at hPages
  exact hPages hCalls

def listedThread (id : Nat) (recencyAt : Timestamp) : ThreadRecord :=
  ⟨⟨.ofNat id⟩, ⟨.ofNat id⟩, none, none, none, none, none, none, "", "", ⟨0⟩, ⟨0⟩, recencyAt, false,
    false⟩

/- Two of the threads were used at the same time. -/
def listedDatabase : Database := { Database.empty with
  threads := ⟨[listedThread 1 ⟨5⟩, listedThread 2 ⟨7⟩, listedThread 3 ⟨5⟩], by decide⟩ }

def nanosText (time : Timestamp) : String := time.nanos.repr

theorem listedDatabase_enumerated :
    ∃ threads : List ThreadRecord, (∀ calls, threads.length < calls →
        listThreads nanosText listedDatabase none 2 calls = some threads) ∧
      threads.Perm listedDatabase.threads.rows := by
  rcases listThreadsPage_enumerates nanosText listedDatabase none Nat.two_pos with
    ⟨threads, hCalls, hPerm, _⟩
  exact ⟨threads, hCalls, hPerm⟩

/- Pages without rows are never short, whatever is stored. -/
theorem emptyPages_endless : ¬ ∃ toRfc3339 database workspaceRoot calls threads,
    listThreads toRfc3339 database workspaceRoot 0 calls = some threads := by
  rintro ⟨toRfc3339, database, workspaceRoot, calls, threads, hEnds⟩
  rw [listThreads] at hEnds
  induction calls with
  | zero => cases hEnds
  | succ calls ih =>
    have hPage : listThreadsPage toRfc3339 database workspaceRoot 0 none = [] := List.take_zero
    rw [Paging.pages, hPage] at hEnds
    exact ih (by simpa using hEnds)

end GolutraAgent.Store
