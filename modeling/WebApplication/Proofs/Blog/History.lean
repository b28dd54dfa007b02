import Mathlib.Data.List.Induction
import WebApplication.Blog.Articles

/-!
# What the articles remember of their history

Articles are saved, updated and deleted, and the history has every such act with its answer.
There is an article exactly if the last that the history says of its number is that it was
saved, and it reads as it was written last. Numbers grow with every save, so no number is
given twice.
-/

set_option autoImplicit false

namespace WebApplication.Blog.Articles

inductive Act where
  | save (draft : Draft)
  | update (id : Nat) (draft : Draft)
  | delete (id : Nat)

inductive Event where
  | saved (draft : Draft) (answer : Article)
  | updated (id : Nat) (draft : Draft) (answer : Option Article)
  | deleted (id : Nat) (answer : Bool)
  deriving DecidableEq

def step (a : Articles) : Act → Event × Articles
  | .save draft =>
    let (answer, later) := a.save draft
    (.saved draft answer, later)
  | .update id draft =>
    let (answer, later) := a.update id draft
    (.updated id draft answer, later)
  | .delete id =>
    let (answer, later) := a.delete id
    (.deleted id answer, later)

def run (acts : List Act) : List Event × Articles :=
  acts.foldl (fun (history, a) act =>
    let (event, later) := a.step act
    (history++[event], later)) ([], .empty)

theorem run_concat (acts : List Act) (act : Act) :
    run (acts++[act]) =
      ((run acts).1++[((run acts).2.step act).1], ((run acts).2.step act).2) := by
  rw [run, List.foldl_append]
  rfl

/-! ## What a history says -/

namespace Event

def number? : Event → Option Nat
  | saved _ answer => some answer.id
  | updated _ _ answer => answer.map Article.id
  | deleted _ _ => none

def life? (id : Nat) : Event → Option Bool
  | saved _ answer => if answer.id = id then some true else none
  | updated _ _ _ => none
  | deleted other _ => if other = id then some false else none

def text? (id : Nat) : Event → Option Draft
  | saved draft answer => if answer.id = id then some draft else none
  | updated other draft _ => if other = id then some draft else none
  | deleted _ _ => none

def isSave : Event → Bool
  | saved _ _ => true
  | _ => false

end Event

def Alive (history : List Event) (id : Nat) : Prop :=
  history.reverse.findSome? (Event.life? id) = some true

instance (history : List Event) (id : Nat) : Decidable (Alive history id) :=
  inferInstanceAs (Decidable (_ = _))

def lastText (history : List Event) (id : Nat) : Option Draft :=
  history.reverse.findSome? (Event.text? id)

def numbers (history : List Event) : List Nat := history.filterMap Event.number?

def saves (history : List Event) : Nat := history.countP Event.isSave

variable {history : List Event} {event : Event} {a : Articles} {id : Nat} {draft : Draft}
  {article : Article}

theorem alive_concat : Alive (history++[event]) id ↔
    event.life? id = some true ∨ event.life? id = none ∧ Alive history id := by
  rw [Alive, List.reverse_append, List.reverse_singleton, List.singleton_append,
    List.findSome?_cons, Alive]
  cases event.life? id <;> simp

theorem lastText_concat :
    lastText (history++[event]) id = (event.text? id).or (lastText history id) := by
  rw [lastText, List.reverse_append, List.reverse_singleton, List.singleton_append,
    List.findSome?_cons, lastText]
  cases event.text? id <;> rfl

theorem mem_numbers_concat : id ∈ numbers (history++[event]) ↔
    id ∈ numbers history ∨ event.number? = some id := by
  rw [numbers, List.filterMap_append, List.mem_append, numbers]
  cases h : event.number? <;> simp [h, eq_comm]

theorem saves_concat : saves (history++[event]) =
    saves history+if event.isSave then 1 else 0 := by
  rw [saves, List.countP_append, List.countP_singleton, saves]

/-- What was saved last was written then or later. -/
theorem exists_lastText (h : Alive history id) : ∃ draft, lastText history id = some draft := by
  induction history using List.reverseRecOn with
  | nil => cases h
  | append_singleton history event ih =>
    rw [lastText_concat]
    rcases alive_concat.mp h with hnow | ⟨-, hbefore⟩
    · cases event with
      | saved draft answer =>
        simp only [Event.life?, ite_eq_left_iff, reduceCtorEq, imp_false, not_not] at hnow
        exact ⟨draft, by simp [Event.text?, hnow]⟩
      | updated other draft answer => cases hnow
      | deleted other answer => simp [Event.life?] at hnow
    · obtain ⟨draft, hdraft⟩ := ih hbefore
      cases htext : event.text? id with
      | none => exact ⟨draft, by simpa using hdraft⟩
      | some later => exact ⟨later, rfl⟩

/-! ## What an act does -/

theorem id_revise (id : Nat) (draft : Draft) (article : Article) :
    (revise id draft article).id = article.id := by
  rw [revise]
  split <;> rfl

theorem mem_revised (h : ∃ found ∈ a.entries, found.id = id) :
    article ∈ a.entries.map (revise id draft) ↔
      if article.id = id then article.draft = draft else article ∈ a.entries := by
  rw [List.mem_map]
  constructor
  · rintro ⟨before, hbefore, rfl⟩
    rw [id_revise]
    by_cases hid : before.id = id
    · simp [revise, hid]
    · simpa [revise, hid] using hbefore
  · intro hin
    split at hin
    · rename_i hid
      obtain ⟨found, hfound, hfid⟩ := h
      refine ⟨found, hfound, ?_⟩
      cases article
      simp_all [revise]
    · rename_i hid
      exact ⟨article, hin, by simp [revise, hid]⟩

structure Follows (history : List Event) (a : Articles) : Prop where
  sorted : a.entries.Pairwise (·.id < ·.id)
  saved : a.lastId = saves history
  returned : ∀ id ∈ numbers history, id ≤ a.lastId
  bounded : ∀ article ∈ a.entries, article.id ≤ a.lastId
  kept : ∀ article, article ∈ a.entries ↔
    Alive history article.id ∧ lastText history article.id = some article.draft

theorem follows_empty : Follows [] .empty := by
  refine ⟨.nil, rfl, by simp [numbers], by simp [empty], fun article => ?_⟩
  simp [empty, Alive]

namespace Follows

theorem eq_of_id (h : Follows history a) {other : Article} (ha : article ∈ a.entries)
    (ho : other ∈ a.entries) (hid : other.id = article.id) : other = article := by
  have hother := ((h.kept other).mp ho).2
  rw [hid, ((h.kept article).mp ha).2] at hother
  cases other
  cases article
  cases hid
  cases hother
  rfl

theorem find?_eq_some_iff (h : Follows history a) :
    a.find? id = some article ↔ article ∈ a.entries ∧ article.id = id := by
  constructor
  · intro hf
    exact ⟨List.mem_of_find?_eq_some hf, by simpa using List.find?_some hf⟩
  · rintro ⟨hin, hid⟩
    cases hf : a.find? id with
    | none => exact absurd hid (by simpa using List.find?_eq_none.mp hf article hin)
    | some other =>
      have ho : other.id = id := by simpa using List.find?_some hf
      rw [h.eq_of_id hin (List.mem_of_find?_eq_some hf) (ho.trans hid.symm)]

theorem find?_eq_none_iff (h : Follows history a) : a.find? id = none ↔ ¬Alive history id := by
  constructor
  · intro hf halive
    obtain ⟨draft, hdraft⟩ := exists_lastText halive
    have hin : (⟨id, draft⟩ : Article) ∈ a.entries := (h.kept ⟨id, draft⟩).mpr ⟨halive, hdraft⟩
    rw [h.find?_eq_some_iff.mpr ⟨hin, rfl⟩] at hf
    cases hf
  · intro hdead
    rw [Option.eq_none_iff_forall_ne_some]
    intro article hf
    obtain ⟨hin, rfl⟩ := h.find?_eq_some_iff.mp hf
    exact hdead ((h.kept article).mp hin).1

theorem save (h : Follows history a) (draft : Draft) :
    Follows (history++[(a.step (.save draft)).1]) (a.step (.save draft)).2 := by
  show Follows (history++[.saved draft ⟨a.lastId+1, draft⟩])
    ⟨a.entries++[⟨a.lastId+1, draft⟩], a.lastId+1⟩
  refine ⟨?_, ?_, ?_, ?_, ?_⟩
  · refine List.pairwise_append.mpr ⟨h.sorted, List.pairwise_singleton _ _, ?_⟩
    intro article hin last hlast
    rw [List.mem_singleton.mp hlast]
    exact Nat.lt_succ_of_le (h.bounded article hin)
  · rw [saves_concat, ← h.saved]
    rfl
  · intro id hid
    rcases mem_numbers_concat.mp hid with hid | hid
    · exact Nat.le_succ_of_le (h.returned id hid)
    · cases hid
      exact Nat.le_refl _
  · intro article hin
    rcases List.mem_append.mp hin with hin | hin
    · exact Nat.le_succ_of_le (h.bounded article hin)
    · exact Nat.le_of_eq (congrArg Article.id (List.mem_singleton.mp hin))
  · intro article
    rw [List.mem_append, List.mem_singleton, alive_concat, lastText_concat]
    by_cases hid : a.lastId+1 = article.id
    · have hnew : article ∉ a.entries := by
        intro hin
        have hle := h.bounded article hin
        omega
      cases article
      simp_all [Event.life?, Event.text?, eq_comm]
    · have hother : article ≠ ⟨a.lastId+1, draft⟩ := fun he => hid (by rw [he])
      simp [Event.life?, Event.text?, hid, hother, h.kept]

theorem unsaved (h : Follows history a) {entries : List Article} (hsave : event.isSave = false)
    (hnumber : ∀ id, event.number? = some id → id ≤ a.lastId)
    (hids : (entries.map Article.id).Sublist (a.entries.map Article.id))
    (hkept : ∀ article, article ∈ entries ↔ Alive (history++[event]) article.id ∧
      lastText (history++[event]) article.id = some article.draft) :
    Follows (history++[event]) ⟨entries, a.lastId⟩ := by
  refine ⟨?_, ?_, ?_, ?_, hkept⟩
  · exact List.pairwise_map.mp ((List.pairwise_map.mpr h.sorted).sublist hids)
  · simp [saves_concat, hsave, h.saved]
  · intro id hid
    exact (mem_numbers_concat.mp hid).elim (h.returned id) (hnumber id)
  · intro article hin
    obtain ⟨before, hbefore, hid⟩ := List.mem_map.mp (hids.subset (List.mem_map_of_mem hin))
    exact hid ▸ h.bounded before hbefore

theorem update (h : Follows history a) (id : Nat) (draft : Draft) :
    Follows (history++[(a.step (.update id draft)).1]) (a.step (.update id draft)).2 := by
  cases hf : a.find? id with
  | none =>
    have hstep : a.step (.update id draft) = (.updated id draft none, a) := by
      simp [Articles.step, Articles.update, hf]
    have hdead := h.find?_eq_none_iff.mp hf
    rw [hstep]
    refine h.unsaved rfl (by simp [Event.number?]) (.refl _) fun article => ?_
    rw [h.kept, alive_concat, lastText_concat]
    by_cases hid : id = article.id
    · subst hid
      simp [Event.life?, hdead]
    · simp [Event.life?, Event.text?, hid]
  | some found =>
    have hstep : a.step (.update id draft) = (.updated id draft (some ⟨id, draft⟩),
        { a with entries := a.entries.map (revise id draft) }) := by
      simp [Articles.step, Articles.update, hf]
    obtain ⟨hfound, rfl⟩ := h.find?_eq_some_iff.mp hf
    have halive := ((h.kept found).mp hfound).1
    rw [hstep]
    refine h.unsaved rfl ?_ ?_ fun article => ?_
    · intro id hid
      cases hid
      exact h.bounded found hfound
    · simp [id_revise, Function.comp_def]
    · rw [mem_revised ⟨found, hfound, rfl⟩, h.kept, alive_concat, lastText_concat]
      by_cases hid : found.id = article.id
      · simp [Event.life?, Event.text?, hid, hid ▸ halive, eq_comm]
      · simp [Event.life?, Event.text?, hid, Ne.symm hid]

theorem delete (h : Follows history a) (id : Nat) :
    Follows (history++[(a.step (.delete id)).1]) (a.step (.delete id)).2 := by
  cases hf : a.find? id with
  | none =>
    have hstep : a.step (.delete id) = (.deleted id false, a) := by
      simp [Articles.step, Articles.delete, hf]
    have hdead := h.find?_eq_none_iff.mp hf
    rw [hstep]
    refine h.unsaved rfl (by simp [Event.number?]) (.refl _) fun article => ?_
    rw [h.kept, alive_concat, lastText_concat]
    by_cases hid : id = article.id
    · subst hid
      simp [Event.life?, hdead]
    · simp [Event.life?, Event.text?, hid]
  | some found =>
    have hstep : a.step (.delete id) =
        (.deleted id true, { a with entries := a.entries.filter (·.id ≠ id) }) := by
      simp [Articles.step, Articles.delete, hf]
    rw [hstep]
    refine h.unsaved rfl (by simp [Event.number?]) ?_ fun article => ?_
    · exact List.filter_sublist.map Article.id
    · rw [List.mem_filter, h.kept, alive_concat, lastText_concat]
      by_cases hid : id = article.id
      · simp [Event.life?, hid]
      · simp [Event.life?, Event.text?, hid, Ne.symm hid]

theorem step (h : Follows history a) (act : Act) :
    Follows (history++[(a.step act).1]) (a.step act).2 := by
  cases act with
  | save draft => exact h.save draft
  | update id draft => exact h.update id draft
  | delete id => exact h.delete id

end Follows

theorem follows_run (acts : List Act) : Follows (run acts).1 (run acts).2 := by
  induction acts using List.reverseRecOn with
  | nil => exact follows_empty
  | append_singleton acts act ih =>
    rw [run_concat]
    exact ih.step act

/-- Every save answers with the draft, under a number above all that were returned before. -/
def Growing (history : List Event) : Prop :=
  ∀ front draft answer back, history = front++.saved draft answer::back →
    answer.draft = draft ∧ ∀ id ∈ numbers front, id < answer.id

theorem growing_run (acts : List Act) : Growing (run acts).1 := by
  induction acts using List.reverseRecOn with
  | nil =>
    intro front draft answer back h
    simp [run] at h
  | append_singleton acts act ih =>
    intro front draft answer back h
    rw [run_concat] at h
    rcases List.eq_nil_or_concat back with rfl | ⟨before, last, rfl⟩
    · obtain ⟨rfl, hlast⟩ := List.append_inj' h rfl
      cases act with
      | save text =>
        cases hlast
        exact ⟨rfl, fun id hid => Nat.lt_succ_of_le ((follows_run acts).returned id hid)⟩
      | update id text => cases hlast
      | delete id => cases hlast
    · rw [List.concat_eq_append, ← List.cons_append, ← List.append_assoc] at h
      exact ih front draft answer before (List.append_inj' h rfl).1

theorem Follows.sort_eq (h : Follows history a) {listing : List Article}
    (hl : listing.Perm a.entries) : listing.mergeSort (·.id ≤ ·.id) = a.entries := by
  have hsorted : (listing.mergeSort (·.id ≤ ·.id)).Pairwise
      fun x y => decide (x.id ≤ y.id) = true :=
    List.pairwise_mergeSort (by simpa using fun _ _ _ => Nat.le_trans)
      (by simpa using fun x y => Nat.le_total _ _) listing
  have hperm := List.mergeSort_perm listing (·.id ≤ ·.id)
  refine List.Perm.eq_of_pairwise ?_ hsorted (h.sorted.imp fun hlt => ?_) (hperm.trans hl)
  · intro x y hx hy hxy hyx
    have hin := hl.subset (hperm.subset hx)
    exact h.eq_of_id hy hin (Nat.le_antisymm (of_decide_eq_true hxy) (of_decide_eq_true hyx))
  · exact decide_eq_true (Nat.le_of_lt hlt)

/-- The articles are those that were saved and not deleted since, once each, in the order of
their numbers, and read as they were written last. Every save gives a number above all others,
no further than there were saves. An article is found by its number; without one to change or
to delete, nothing happens. -/
theorem history_kept {acts : List Act} (h : run acts = (history, a)) :
    Growing history ∧ (∀ id ∈ numbers history, id ≤ saves history) ∧
    a.entries.Pairwise (·.id < ·.id) ∧
    (∀ listing : List Article, listing.Perm a.entries →
      listing.mergeSort (·.id ≤ ·.id) = a.entries) ∧
    (∀ article, article ∈ a.entries ↔
      Alive history article.id ∧ lastText history article.id = some article.draft) ∧
    (∀ id article, a.find? id = some article ↔ article ∈ a.entries ∧ article.id = id) ∧
    (∀ id, Alive history id →
      (∀ draft, (a.update id draft).1 = some ⟨id, draft⟩) ∧ (a.delete id).1 = true) ∧
    ∀ id, ¬Alive history id →
      (∀ draft, a.update id draft = (none, a)) ∧ a.delete id = (false, a) := by
  have hf := follows_run acts
  have hg := growing_run acts
  rw [h] at hf hg
  refine ⟨hg, fun id hid => hf.saved ▸ hf.returned id hid, hf.sorted, fun listing => hf.sort_eq,
    hf.kept, fun id article => hf.find?_eq_some_iff, fun id halive => ?_, fun id hdead => ?_⟩
  · cases hfind : a.find? id with
    | none => exact absurd halive (hf.find?_eq_none_iff.mp hfind)
    | some found => exact ⟨fun draft => by rw [update, hfind], by rw [delete, hfind]⟩
  · have hfind := hf.find?_eq_none_iff.mpr hdead
    exact ⟨fun draft => by rw [update, hfind], by rw [delete, hfind]⟩

def news (title : String) : Draft := ⟨title, "Lorem ipsum", "dolor sit amet", "smaldini"⟩

def editing : List Act :=
  [.save (news "Bismuth"), .save (news "Aluminium"), .delete 2, .save (news "Californium"),
    .update 2 (news "Aluminium SR1"), .update 1 (news "Bismuth SR1")]

theorem editing_kept :
    (run editing).2.find? 3 = some ⟨3, news "Californium"⟩ ∧
    (run editing).2.delete 2 = (false, (run editing).2) ∧
    (⟨1, news "Bismuth SR1"⟩ : Article) ∈ (run editing).2.entries ∧
    ∀ id ∈ numbers (run editing).1, id ≤ 3 := by
  obtain ⟨-, hbound, -, -, hkept, hfind, -, hdead⟩ := @history_kept _ _ editing rfl
  refine ⟨(hfind _ _).mpr ⟨(hkept _).mpr ?_, rfl⟩, (hdead 2 ?_).2, (hkept _).mpr ?_, hbound⟩ <;>
    decide

end WebApplication.Blog.Articles
