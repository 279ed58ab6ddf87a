import KidProxy.Transform

/-!
# HeaderRewrite — what a rule does to the headers

`apply_selected_headers` collects the rewritten entries, may fail at each of them, and writes them back
at the end.  `rewriteEntries_spec` says what the loop collects, entry by entry; `applyHeaders_exact` says
it of the values of each header.
-/

namespace KidProxy

/-- The headers a target stands for. -/
def TransformTarget.selects : TransformTarget → HeaderName → Bool
  | .everything, _ => true
  | .body, _ => false
  | .allHeaders, _ => true
  | .header name, current => current = name
  | .cookies, current => current = .setCookie

/-! ### Values -/

namespace HeaderValue

/-- Text that a value reads as is written as that value. -/
theorem fromStr_toStr {value : HeaderValue} {text : List Char} (h : value.toStr = some text) :
    fromStr text = some value := by
  unfold toStr at h
  split_ifs at h with hvisible
  have htext := Option.some.inj h
  have hsmall : ∀ b ∈ value.bytes, b.toNat < 128 := by
    intro b hb
    have hbyte := toNat_of_isVisibleAscii (List.all_eq_true.mp hvisible b hb)
    omega
  have hchar : ∀ b ∈ value.bytes, (Char.ofNat b.toNat).toNat = b.toNat := fun b hb =>
    toNat_ofNat_of_isVisibleAscii (List.all_eq_true.mp hvisible b hb)
  have hbytes : Text.utf8 text = value.bytes := by
    rw [← htext, Text.utf8_ascii, List.map_map]
    · refine (List.map_congr_left fun b hb => ?_).trans (List.map_id _)
      show UInt8.ofNat (Char.ofNat b.toNat).toNat = b
      rw [hchar b hb, UInt8.ofNat_toNat]
    · intro c hc
      obtain ⟨b, hb, rfl⟩ := List.mem_map.mp hc
      rw [hchar b hb]
      exact hsmall b hb
  unfold fromStr
  simp only [hbytes]
  rw [dif_pos value.valid]

theorem text_eq_of_fromStr {a b : List Char} {value : HeaderValue} (ha : fromStr a = some value)
    (hb : fromStr b = some value) : a = b := by
  have hbytes : ∀ {cs : List Char}, fromStr cs = some value → Text.utf8 cs = value.bytes := by
    intro cs h
    unfold fromStr at h
    split_ifs at h
    exact congrArg HeaderValue.bytes (Option.some.inj h)
  exact Text.utf8_injective ((hbytes ha).trans (hbytes hb).symm)

end HeaderValue

/-! ### Entries -/

namespace TransformRule

variable (rule : TransformRule) (selector : HeaderName → Bool)

/-- `updated` is what `replace_text` makes of the value. -/
def Rewrites (value updated : HeaderValue) : Prop :=
  ∃ text, value.toStr = some text ∧ HeaderValue.fromStr (rule.replaceText text) = some updated

/-- The value is not text, or what it would become is not a legal value. -/
def Rejects (value : HeaderValue) : Prop :=
  value.toStr = none ∨
    ∃ text, value.toStr = some text ∧ HeaderValue.fromStr (rule.replaceText text) = none

/-- What becomes of a value of the header `name`. -/
def Becomes (name : HeaderName) (value updated : HeaderValue) : Prop :=
  if selector name then rule.Rewrites value updated else updated = value

/-- A value changes exactly when its text does. -/
theorem changed_iff {value updated : HeaderValue} {text : List Char} (ht : value.toStr = some text)
    (hu : HeaderValue.fromStr (rule.replaceText text) = some updated) :
    (rule.replaceText text != text) = true ↔ updated ≠ value := by
  have hback := HeaderValue.fromStr_toStr ht
  rw [bne_iff_ne]
  constructor
  · intro hne heq
    exact hne (HeaderValue.text_eq_of_fromStr hu (heq ▸ hback))
  · intro hne heq
    rw [heq, hback] at hu
    exact hne (Option.some.inj hu).symm

theorem not_rejects {value updated : HeaderValue} {text : List Char} (ht : value.toStr = some text)
    (hu : HeaderValue.fromStr (rule.replaceText text) = some updated) : ¬ rule.Rejects value := by
  rintro (hnone | ⟨text', htext', hnone⟩)
  · rw [ht] at hnone
    cases hnone
  · rw [ht] at htext'
    rw [← Option.some.inj htext', hu] at hnone
    cases hnone

/-- What the loop answers: it fails exactly at a selected value that is rejected, and otherwise keeps
the names and their order. -/
theorem rewriteEntries_spec (entries : List (HeaderName × HeaderValue)) :
    match rule.rewriteEntries selector entries with
    | .ok (out, changed) =>
      List.Forall₂ (fun e e' => e'.1 = e.1 ∧ rule.Becomes selector e.1 e.2 e'.2) entries out ∧
        (changed = true ↔ out ≠ entries) ∧ ∀ e ∈ entries, selector e.1 = true → ¬ rule.Rejects e.2
    | .error _ => ∃ e ∈ entries, selector e.1 = true ∧ rule.Rejects e.2 := by
  induction entries with
  | nil => exact ⟨.nil, by simp, fun e he => absurd he List.not_mem_nil⟩
  | cons e entries ih =>
    obtain ⟨name, value⟩ := e
    unfold rewriteEntries
    by_cases hsel : selector name = true
    · rw [if_pos hsel]
      cases htext : value.toStr with
      | none => exact ⟨_, List.mem_cons_self, hsel, .inl htext⟩
      | some text =>
        dsimp only
        cases hfrom : HeaderValue.fromStr (rule.replaceText text) with
        | none => exact ⟨_, List.mem_cons_self, hsel, .inr ⟨text, htext, hfrom⟩⟩
        | some updated =>
          dsimp only
          have hkept := rule.not_rejects htext hfrom
          cases hrest : rule.rewriteEntries selector entries with
          | error err =>
            rw [hrest] at ih
            obtain ⟨e, he, hbad⟩ := ih
            exact ⟨e, List.mem_cons_of_mem _ he, hbad⟩
          | ok p =>
            obtain ⟨out, changed⟩ := p
            rw [hrest] at ih
            obtain ⟨hall, hchanged, hgood⟩ := ih
            refine ⟨.cons ⟨rfl, ?_⟩ hall, ?_, List.forall_mem_cons.mpr ⟨fun _ => hkept, hgood⟩⟩
            · exact (if_pos hsel).mpr ⟨text, htext, hfrom⟩
            · rw [Bool.or_eq_true, rule.changed_iff htext hfrom, hchanged]
              simp only [ne_eq, List.cons.injEq, Prod.mk.injEq, true_and]
              exact not_and_or.symm
    · rw [if_neg hsel]
      cases hrest : rule.rewriteEntries selector entries with
      | error err =>
        rw [hrest] at ih
        obtain ⟨e, he, hbad⟩ := ih
        exact ⟨e, List.mem_cons_of_mem _ he, hbad⟩
      | ok p =>
        obtain ⟨out, changed⟩ := p
        rw [hrest] at ih
        obtain ⟨hall, hchanged, hgood⟩ := ih
        refine ⟨.cons ⟨rfl, ?_⟩ hall, ?_,
          List.forall_mem_cons.mpr ⟨fun h => absurd h hsel, hgood⟩⟩
        · exact (if_neg hsel).mpr rfl
        · rw [hchanged]
          simp

/-! ### Headers -/

/-- What `apply_selected_headers` promises of an answer and the headers it leaves. -/
def RewritesHeaders (headers : HeaderMap) : Except AnyError Bool × HeaderMap → Prop
  | (.ok changed, out) =>
    (∀ name, List.Forall₂ (rule.Becomes selector name) (headers.getAll name) (out.getAll name)) ∧
      (changed = true ↔ ∃ name, out.getAll name ≠ headers.getAll name) ∧
      ∀ name, selector name = true → ∀ value ∈ headers.getAll name, ¬ rule.Rejects value
  | (.error _, out) =>
    out = headers ∧ ∃ name, selector name = true ∧ ∃ value ∈ headers.getAll name, rule.Rejects value

theorem mem_getAll {headers : HeaderMap} {name : HeaderName} {value : HeaderValue} :
    value ∈ headers.getAll name ↔ (name, value) ∈ headers.entries := by
  unfold MultiMap.getAll
  rw [List.mem_map]
  constructor
  · rintro ⟨e, he, rfl⟩
    obtain ⟨hmem, hname⟩ := List.mem_filter.mp he
    rw [← of_decide_eq_true hname]
    exact hmem
  · intro hmem
    exact ⟨(name, value), List.mem_filter.mpr ⟨hmem, decide_eq_true rfl⟩, rfl⟩

theorem applySelectedHeaders_exact (headers : HeaderMap) :
    rule.RewritesHeaders selector headers (rule.applySelectedHeaders headers selector) := by
  have hspec := rule.rewriteEntries_spec selector headers.entries
  unfold applySelectedHeaders
  cases hentries : rule.rewriteEntries selector headers.entries with
  | error err =>
    rw [hentries] at hspec
    obtain ⟨e, he, hsel, hbad⟩ := hspec
    exact ⟨rfl, e.1, hsel, e.2, mem_getAll.mpr he, hbad⟩
  | ok p =>
    obtain ⟨entries, changed⟩ := p
    rw [hentries] at hspec
    obtain ⟨hall, hchanged, hgood⟩ := hspec
    -- the map that is left has the collected entries, whether or not they are written back
    have hout : (if changed then entries.foldl (fun m e => m.append e.1 e.2) MultiMap.empty
        else headers) = (⟨entries⟩ : HeaderMap) := by
      split_ifs with hc
      · exact MultiMap.foldl_append_empty entries
      · rw [not_not.mp (mt hchanged.mpr hc)]
    show rule.RewritesHeaders selector headers (.ok changed, _)
    rw [hout]
    refine ⟨MultiMap.forall₂_getAll hall, hchanged.trans ?_, fun name hsel value hvalue =>
      hgood (name, value) (mem_getAll.mp hvalue) hsel⟩
    constructor
    · intro hne
      by_contra hsame
      refine hne (MultiMap.entries_eq_of_getAll (hall.imp fun _ _ h => h.1) fun name => ?_)
      by_contra hdiff
      exact hsame ⟨name, hdiff⟩
    · rintro ⟨name, hdiff⟩ heq
      exact hdiff (by rw [heq])

/-- **Header rewriting is exact and atomic**: on success the values of each selected header are rewritten
one by one, all others stay, and `changed` says whether a value differs; it fails exactly when a
selected value is rejected, and then nothing was written. -/
theorem applyHeaders_exact (headers : HeaderMap) :
    rule.RewritesHeaders rule.target.selects headers (rule.applyHeaders headers) := by
  unfold applyHeaders
  cases htarget : rule.target with
  | everything => exact rule.applySelectedHeaders_exact _ headers
  | allHeaders => exact rule.applySelectedHeaders_exact _ headers
  | header name => exact rule.applySelectedHeaders_exact _ headers
  | cookies => exact rule.applySelectedHeaders_exact _ headers
  | body =>
    -- no header is selected
    refine ⟨fun name => ?_, ?_, fun name hsel => absurd hsel Bool.false_ne_true⟩
    · exact List.forall₂_same.mpr fun value _ => (if_neg Bool.false_ne_true).mpr rfl
    · exact ⟨fun h => absurd h Bool.false_ne_true, fun ⟨name, hne⟩ => absurd rfl hne⟩

end TransformRule

end KidProxy
