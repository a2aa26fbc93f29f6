import Mathlib.Algebra.Order.Floor.Div
import Ocpp.ChargePoint.MonitoringReports

/-!
# Report pages

`v201_report_pages` of `v201_command.rs`, which splits a device-model report into numbered requests. The entries come
from one iterator that is drained page by page, as many times as the division says.
-/

namespace Ocpp.ChargePoint
open Library

def v201ReportEntriesPerPage : Nat := 25

section

variable {T R σ : Type}

/-- `build` may keep a state from one page to the next. -/
def v201ReportPages (entries : List T) (build : σ → Option (List T) → Option Bool → Int → R × σ) (state : σ) : List R :=
  if entries.isEmpty then [(build state none none 0).1]
  else
    let perPage := max v201ReportEntriesPerPage 1
    let pageCount := entries.length ⌈/⌉ perPage
    let last := pageCount - 1
    mapWith (fun (iter, state) i =>
      let (request, state) := build state (some (iter.take perPage)) (if i < last then some true else none)
        (if i < 2 ^ 31 then i else 2 ^ 31 - 1)
      (request, (iter.drop perPage, state))) (entries, state) (List.range pageCount)

/-- What a page is built from. -/
structure Page (T : Type) where
  entries : Option (List T)
  tbc : Option Bool
  seqNo : Int
deriving DecidableEq

/-- The pages hold the entries in their order, all but the last are full and to be continued, and they are numbered
from 0. A report without entries has one page without entries. -/
structure Paged (entries : List T) (pages : List (Page T)) : Prop where
  lossless : (pages.flatMap fun page => page.entries.getD []) = entries
  empty : entries = [] → pages = [⟨none, none, 0⟩]
  sized : entries ≠ [] → ∀ page ∈ pages, ∃ held, page.entries = some held ∧ 1 ≤ held.length ∧ held.length ≤ 25
  full : ∀ i page, pages[i]? = some page → i + 1 < pages.length →
    ∃ held, page.entries = some held ∧ held.length = 25
  numbered : ∀ (i : Nat) page, pages[i]? = some page → page.seqNo = i
  continued : ∀ i page, pages[i]? = some page → page.tbc = if i + 1 < pages.length then some true else none

def pageCount (entries : List T) : Nat :=
  entries.length ⌈/⌉ v201ReportEntriesPerPage

def window (entries : List T) (i : Nat) : List T :=
  (entries.drop (i * v201ReportEntriesPerPage)).take v201ReportEntriesPerPage

def reportPages (entries : List T) : List (Page T) :=
  if entries.isEmpty then [⟨none, none, 0⟩]
  else (List.range (pageCount entries)).map fun i =>
    ⟨some (window entries i), if i + 1 < pageCount entries then some true else none, i⟩

variable {entries : List T}

theorem pageCount_le {k : Nat} : pageCount entries ≤ k ↔ entries.length ≤ 25 * k :=
  ceilDiv_le_iff_le_smul (by decide)

theorem lt_pageCount {i : Nat} : i < pageCount entries ↔ 25 * i < entries.length := by
  rw [← not_le, pageCount_le, not_le]

theorem window_length (i : Nat) : (window entries i).length = min 25 (entries.length - i * 25) := by
  rw [window, List.length_take, List.length_drop, v201ReportEntriesPerPage]

theorem flatMap_window : (List.range (pageCount entries)).flatMap (window entries) = entries := by
  refine (flatMap_windows entries _ _).trans (List.take_of_length_le ?_)
  have enough := pageCount_le.mp (le_refl (pageCount entries))
  rwa [v201ReportEntriesPerPage, Nat.mul_comm]

theorem reportPages_getElem (filled : entries ≠ []) {i : Nat} {page : Page T}
    (here : (reportPages entries)[i]? = some page) : i < pageCount entries ∧
      page = ⟨some (window entries i), if i + 1 < pageCount entries then some true else none, i⟩ := by
  rw [reportPages, if_neg (by simpa using filled), List.getElem?_map, Option.map_eq_some_iff] at here
  obtain ⟨i', found, rfl⟩ := here
  obtain ⟨inside, rfl⟩ := List.getElem?_eq_some_iff.mp found
  rw [List.length_range] at inside
  rw [List.getElem_range]
  exact ⟨inside, rfl⟩

theorem reportPages_length (filled : entries ≠ []) : (reportPages entries).length = pageCount entries := by
  rw [reportPages, if_neg (by simpa using filled), List.length_map, List.length_range]

theorem paged_empty : Paged ([] : List T) (reportPages []) := by
  have only : ∀ i page, (reportPages ([] : List T))[i]? = some page → i = 0 ∧ page = ⟨none, none, 0⟩ := by
    intro i page here
    cases i with
    | zero => exact ⟨rfl, (Option.some.inj here).symm⟩
    | succ i => cases here
  constructor
  · rfl
  · exact fun _ => rfl
  · exact fun filled => absurd rfl filled
  · intro i page here later
    rw [(only i page here).1] at later
    exact absurd later (Nat.lt_irrefl 1)
  · intro i page here
    obtain ⟨rfl, rfl⟩ := only i page here
    rfl
  · intro i page here
    obtain ⟨rfl, rfl⟩ := only i page here
    rfl

theorem paged_filled (filled : entries ≠ []) : Paged entries (reportPages entries) := by
  constructor
  · rw [reportPages, if_neg (by simpa using filled), List.flatMap_map]
    exact flatMap_window
  · exact fun empty => absurd empty filled
  · intro _ page member
    obtain ⟨i, here⟩ := List.getElem?_of_mem member
    obtain ⟨inside, rfl⟩ := reportPages_getElem filled here
    have later := lt_pageCount.mp inside
    refine ⟨_, rfl, ?_⟩
    rw [window_length]
    omega
  · intro i page here later
    obtain ⟨-, rfl⟩ := reportPages_getElem filled here
    rw [reportPages_length filled, lt_pageCount] at later
    refine ⟨_, rfl, ?_⟩
    rw [window_length]
    omega
  · intro i page here
    obtain ⟨-, rfl⟩ := reportPages_getElem filled here
    rfl
  · intro i page here
    obtain ⟨-, rfl⟩ := reportPages_getElem filled here
    rw [reportPages_length filled]

variable (entries) in
theorem paged_reportPages : Paged entries (reportPages entries) := by
  by_cases filled : entries = []
  · rw [filled]
    exact paged_empty
  · exact paged_filled filled

theorem v201ReportPages_eq (few : entries.length < 25 * 2 ^ 31)
    (build : σ → Option (List T) → Option Bool → Int → R × σ) (state : σ) : v201ReportPages entries build state =
      mapWith (fun state page => build state page.entries page.tbc page.seqNo) state (reportPages entries) := by
  rw [v201ReportPages, reportPages]
  split_ifs with empty
  · rfl
  · rw [mapWith_map]
    refine (mapWith_take (fun state page i => build state (some page)
      (if i < pageCount entries - 1 then some true else none) (if i < 2 ^ 31 then i else 2 ^ 31 - 1))
      v201ReportEntriesPerPage (pageCount entries) state entries).trans ?_
    apply mapWith_congr
    intro i member state
    have inside := List.mem_range.mp member
    have bound : pageCount entries ≤ 2 ^ 31 := pageCount_le.mpr few.le
    have number : (if i < 2 ^ 31 then (i : Int) else 2 ^ 31 - 1) = i := if_pos (by omega)
    have last : i < pageCount entries - 1 ↔ i + 1 < pageCount entries := Nat.lt_sub_iff_add_lt
    simp only [number, last, window]

variable (entries) in
/-- Whatever is built from them, the pages hold the entries in their order, without gap and without repeat. -/
theorem report_pages_lossless (few : entries.length < 25 * 2 ^ 31) : ∃ pages, Paged entries pages ∧
    ∀ (σ R : Type) (build : σ → Option (List T) → Option Bool → Int → R × σ) (state : σ),
      v201ReportPages entries build state =
        mapWith (fun state page => build state page.entries page.tbc page.seqNo) state pages :=
  ⟨reportPages entries, paged_reportPages entries, fun _ _ => v201ReportPages_eq few⟩

theorem twentySix_paged : ∃ pages, Paged (List.range 26) pages ∧ pages.map (·.tbc) = [some true, none] := by
  obtain ⟨pages, paged, built⟩ := report_pages_lossless (List.range 26) (by decide)
  refine ⟨pages, paged, ?_⟩
  have flags := built Unit (Option Bool) (fun _ _ tbc _ => (tbc, ())) ()
  rw [mapWith_stateless] at flags
  rw [← flags]
  decide

end

/-! ## The reports -/

structure NotifyReportRequest where
  requestId : Int
  generatedAt : String
  reportData : Option (List ReportDataType)
  tbc : Option Bool
  seqNo : Int
deriving DecidableEq

structure NotifyMonitoringReportRequest where
  monitor : Option (List MonitoringDataType)
  requestId : Int
  tbc : Option Bool
  seqNo : Int
  generatedAt : String
deriving DecidableEq

def v201NotifyReportPages (requestId : Int) (generatedAt : String) (reportData : List ReportDataType) :
    List NotifyReportRequest :=
  v201ReportPages reportData (fun _ page tbc seqNo => (⟨requestId, generatedAt, page, tbc, seqNo⟩, ())) ()

def v201NotifyMonitoringReportPages (requestId : Int) (generatedAt : String) (monitorData : List MonitoringDataType) :
    List NotifyMonitoringReportRequest :=
  v201ReportPages monitorData (fun _ page tbc seqNo => (⟨page, requestId, tbc, seqNo, generatedAt⟩, ())) ()

theorem v201NotifyReportPages_paged (requestId : Int) (generatedAt : String) {reportData : List ReportDataType}
    (few : reportData.length < 25 * 2 ^ 31) : ∃ pages, Paged reportData pages ∧
      v201NotifyReportPages requestId generatedAt reportData =
        pages.map fun page => ⟨requestId, generatedAt, page.entries, page.tbc, page.seqNo⟩ := by
  refine ⟨reportPages reportData, paged_reportPages reportData, ?_⟩
  rw [v201NotifyReportPages, v201ReportPages_eq few, mapWith_stateless]

theorem v201NotifyMonitoringReportPages_paged (requestId : Int) (generatedAt : String)
    {monitorData : List MonitoringDataType} (few : monitorData.length < 25 * 2 ^ 31) :
    ∃ pages, Paged monitorData pages ∧ v201NotifyMonitoringReportPages requestId generatedAt monitorData =
      pages.map fun page => ⟨page.entries, requestId, page.tbc, page.seqNo, generatedAt⟩ := by
  refine ⟨reportPages monitorData, paged_reportPages monitorData, ?_⟩
  rw [v201NotifyMonitoringReportPages, v201ReportPages_eq few, mapWith_stateless]

end Ocpp.ChargePoint
