import Mathlib.Data.List.Forall2
import Mathlib.Data.List.Perm.Basic

/-!
# Lib.Components — systems of many components, of which one moves at a time

The components of a system are a list, and a step of one of them is `List.set`.  The rules follow what a
step of one component does to what is gathered from all (`flatMap_set_perm`), to how many are in some
condition (`countP_set`) and to what each is related to (`forall₂_set`).
-/

namespace Components

variable {α β κ : Type*} {l : List α} {i : ℕ} {a b : α}

/-- What one component adds is added to the whole, at some place. -/
theorem flatMap_set_perm {f : α → List β} {new : List β} (ha : l[i]? = some a) (hf : f b = f a ++ new) :
    ((l.set i b).flatMap f).Perm (l.flatMap f ++ new) := by
  induction l generalizing i with
  | nil => simp at ha
  | cons c l ih =>
    cases i with
    | zero =>
      obtain rfl : c = a := Option.some.inj ha
      rw [List.set_cons_zero, List.flatMap_cons, List.flatMap_cons, hf, List.append_assoc,
        List.append_assoc]
      exact List.perm_append_comm.append_left _
    | succ i =>
      rw [List.set_cons_succ, List.flatMap_cons, List.flatMap_cons, List.append_assoc]
      exact (ih ha).append_left _

theorem flatMap_set_eq {f : α → List β} (ha : l[i]? = some a) (hf : f b = f a) :
    (l.set i b).flatMap f = l.flatMap f := by
  induction l generalizing i with
  | nil => simp at ha
  | cons c l ih =>
    cases i with
    | zero =>
      obtain rfl : c = a := Option.some.inj ha
      rw [List.set_cons_zero, List.flatMap_cons, List.flatMap_cons, hf]
    | succ i => rw [List.set_cons_succ, List.flatMap_cons, List.flatMap_cons, ih ha]

theorem countP_set {p : α → Bool} (ha : l[i]? = some a) :
    (l.set i b).countP p + (if p a then 1 else 0) = l.countP p + (if p b then 1 else 0) := by
  induction l generalizing i with
  | nil => simp at ha
  | cons c l ih =>
    cases i with
    | zero =>
      obtain rfl : c = a := Option.some.inj ha
      rw [List.set_cons_zero, List.countP_cons, List.countP_cons]
      omega
    | succ i =>
      have hrest := ih ha
      rw [List.set_cons_succ, List.countP_cons, List.countP_cons]
      omega

theorem countP_pos {p : α → Bool} (ha : l[i]? = some a) (hp : p a = true) : 0 < l.countP p :=
  List.countP_pos_iff.mpr ⟨a, List.mem_of_getElem? ha, hp⟩

theorem forall₂_of_mem {R : κ → α → Prop} {ks : List κ} (h : List.Forall₂ R ks l) (ha : a ∈ l) :
    ∃ k ∈ ks, R k a := by
  induction h with
  | nil => exact absurd ha List.not_mem_nil
  | @cons k c ks l hk hrest ih =>
    rcases List.mem_cons.mp ha with rfl | hmem
    · exact ⟨k, List.mem_cons_self, hk⟩
    · obtain ⟨k', hk', hR⟩ := ih hmem
      exact ⟨k', List.mem_cons_of_mem k hk', hR⟩

/-- Lists related over a middle list. -/
theorem forall₂_comp {μ : Type*} {R : κ → μ → Prop} {S : μ → α → Prop} {T : κ → α → Prop}
    (hcomp : ∀ k m a, R k m → S m a → T k a) {ks : List κ} {ms : List μ} (h : List.Forall₂ R ks ms)
    (h' : List.Forall₂ S ms l) : List.Forall₂ T ks l := by
  induction h generalizing l with
  | nil =>
    cases h'
    exact .nil
  | cons hR _ ih =>
    cases h' with
    | cons hS hrest => exact .cons (hcomp _ _ _ hR hS) (ih hrest)

theorem forall₂_set {R : κ → α → Prop} {ks : List κ} (h : List.Forall₂ R ks l) (ha : l[i]? = some a)
    (hR : ∀ k, R k a → R k b) : List.Forall₂ R ks (l.set i b) := by
  induction h generalizing i with
  | nil => exact .nil
  | @cons k c ks l hk hrest ih =>
    cases i with
    | zero =>
      obtain rfl : c = a := Option.some.inj ha
      exact .cons (hR k hk) hrest
    | succ i => exact .cons hk (ih ha)

/-- Where each component gives at most one thing, and that names its owner, no two things of the system
have one name. -/
theorem map_flatMap_sublist {R : κ → α → Prop} {f : α → List β} {name : β → κ} {ks : List κ}
    (h : List.Forall₂ R ks l) (hone : ∀ k c, R k c → (f c).length ≤ 1)
    (hname : ∀ k c, R k c → ∀ x ∈ f c, name x = k) : ((l.flatMap f).map name).Sublist ks := by
  induction h with
  | nil => exact List.Sublist.refl _
  | @cons k c ks l hk hrest ih =>
    rw [List.flatMap_cons, List.map_append]
    rcases hc : f c with _ | ⟨x, _ | ⟨y, rest⟩⟩
    · exact ih.cons k
    · have hx : name x = k := hname k c hk x (by rw [hc]; exact List.mem_singleton.mpr rfl)
      show (name x :: _).Sublist _
      rw [hx]
      exact ih.cons_cons k
    · have hlen := hone k c hk
      rw [hc] at hlen
      simp at hlen

end Components
