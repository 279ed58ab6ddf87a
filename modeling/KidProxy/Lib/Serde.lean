import KidProxy.Lib.Assoc
import KidProxy.Lib.JsonText
import Mathlib.Algebra.Group.Nat.Defs

/-!
# Lib.Serde — structs and enums read from JSON

A struct is read from an object or from an array of its fields; unknown and repeated keys are errors.
-/

namespace Serde

variable {α : Type}

/-! ### Values -/

def string : Json → Option String
  | .str value => some value
  | _ => none

def bool : Json → Option Bool
  | .bool value => some value
  | _ => none

/-- `u64`, written without sign, fraction and exponent. -/
def u64 : Json → Option ℕ
  | .num value =>
    let n := Nat.ofDigitChars 10 value.literal 0
    if Json.isDigits value.literal && n < 2 ^ 64 then some n else none
  | _ => none

def option (decode : Json → Option α) : Json → Option (Option α)
  | .null => some none
  | value => (decode value).map some

def vec (decode : Json → Option α) : Json → Option (List α)
  | .arr items => items.mapM decode
  | _ => none

/-- The name of a variant without fields. -/
def unitVariant : Json → Option String
  | .str name => some name
  | .obj [(name, .null)] => some name
  | _ => none

theorem u64_ofNat {n : ℕ} (h : n < 2 ^ 64) : u64 (.num (.ofNat n)) = some n := by
  have hvalue : Nat.ofDigitChars 10 (Nat.toDigits 10 n) 0 = n := Nat.ofDigitChars_ten_toDigits
  have hdigits : Json.isDigits (Nat.toDigits 10 n) = true := Json.isDigits_toDigits n
  show (if Json.isDigits (Nat.toDigits 10 n) && Nat.ofDigitChars 10 (Nat.toDigits 10 n) 0 < 2 ^ 64 then
    some (Nat.ofDigitChars 10 (Nat.toDigits 10 n) 0) else none) = some n
  rw [hvalue, hdigits, Bool.true_and, if_pos (decide_eq_true h)]

theorem vec_map {decode : Json → Option α} {encode : α → Json} {items : List α}
    (h : ∀ a ∈ items, decode (encode a) = some a) : vec decode (.arr (items.map encode)) = some items := by
  show (items.map encode).mapM decode = some items
  induction items with
  | nil => rfl
  | cons a items ih =>
    rw [List.map_cons, List.mapM_cons, h a List.mem_cons_self,
      ih fun b hb => h b (List.mem_cons_of_mem _ hb)]
    rfl

/-- An item in another form that is read the same. -/
theorem vec_of_replaced {decode : Json → Option α} {before after : List Json} {item item' : Json}
    {values : List α} (hitem : ∀ a, decode item = some a → decode item' = some a)
    (h : vec decode (.arr (before ++ item :: after)) = some values) :
    vec decode (.arr (before ++ item' :: after)) = some values := by
  have hsplit : ∀ item : Json, vec decode (.arr (before ++ item :: after)) = (do
      let heads ← before.mapM decode
      let a ← decode item
      let tails ← after.mapM decode
      return heads ++ a :: tails) := by
    intro item
    show (before ++ item :: after).mapM decode = _
    rw [List.mapM_append, List.mapM_cons]
    simp only [bind_assoc, pure_bind]
  rw [hsplit] at h ⊢
  obtain ⟨heads, hheads, h⟩ := Option.bind_eq_some_iff.mp h
  obtain ⟨a, ha, h⟩ := Option.bind_eq_some_iff.mp h
  rw [hheads, hitem a ha]
  exact h

theorem vec_eq_none_of_mem {decode : Json → Option α} {items : List Json} {item : Json} (hmem : item ∈ items)
    (h : decode item = none) : vec decode (.arr items) = none := by
  obtain ⟨before, after, rfl⟩ := List.append_of_mem hmem
  show (before ++ item :: after).mapM decode = none
  rw [List.mapM_append, List.mapM_cons, h]
  cases before.mapM decode <;> rfl

/-! ### Structs -/

/-- The members that a struct of these fields is read from. -/
def struct (names : List String) : Json → Option (List (String × Json))
  | .obj members =>
    if (members.map Prod.fst).Nodup ∧ ∀ key ∈ members.map Prod.fst, key ∈ names then some members else none
  | .arr items => if items.length ≤ names.length then some (names.zip items) else none
  | _ => none

def required (decode : Json → Option α) (name : String) (members : List (String × Json)) : Option α :=
  (members.lookup name).bind decode

def defaulted (decode : Json → Option α) (default : α) (name : String) (members : List (String × Json)) :
    Option α :=
  match members.lookup name with
  | some value => decode value
  | none => some default

/-- A key that is not a field. -/
def UnknownField (names : List String) (value : Json) : Prop :=
  ∃ members, value = .obj members ∧ ∃ key ∈ members.map Prod.fst, key ∉ names

/-- The value of a field, in an object or in an array. -/
def FieldValue (names : List String) (name : String) (value field : Json) : Prop :=
  (∃ members, value = .obj members ∧ (name, field) ∈ members) ∨
    ∃ items, value = .arr items ∧ (name, field) ∈ names.zip items

variable {names : List String} {members : List (String × Json)} {name : String} {value field : Json}

theorem struct_obj_eq_some {given : List (String × Json)} : struct names (.obj given) = some members ↔
    ((given.map Prod.fst).Nodup ∧ ∀ key ∈ given.map Prod.fst, key ∈ names) ∧ given = members := by
  show (if _ then some given else none) = some members ↔ _
  rw [Option.ite_none_right_eq_some, Option.some_inj]

theorem struct_arr_eq_some {items : List Json} : struct names (.arr items) = some members ↔
    items.length ≤ names.length ∧ names.zip items = members := by
  show (if _ then some (names.zip items) else none) = some members ↔ _
  rw [Option.ite_none_right_eq_some, Option.some_inj]

theorem struct_eq_none_of_unknown (h : UnknownField names value) : struct names value = none := by
  obtain ⟨members, rfl, key, hkey, hunknown⟩ := h
  exact if_neg fun hboth => hunknown (hboth.2 key hkey)

theorem required_of_getElem {decode : Json → Option α} {i : ℕ} {a : α}
    (hnodup : (members.map Prod.fst).Nodup) (h : members[i]? = some (name, field))
    (hdecode : decode field = some a) : required decode name members = some a := by
  unfold required
  rw [Assoc.lookup_of_mem hnodup (List.mem_of_getElem? h)]
  exact hdecode

theorem defaulted_of_getElem {decode : Json → Option α} {default : α} {i : ℕ} {a : α}
    (hnodup : (members.map Prod.fst).Nodup) (h : members[i]? = some (name, field))
    (hdecode : decode field = some a) : defaulted decode default name members = some a := by
  unfold defaulted
  rw [Assoc.lookup_of_mem hnodup (List.mem_of_getElem? h)]
  exact hdecode

theorem map_fst_zip_sublist : ∀ (names : List String) (items : List Json),
    ((names.zip items).map Prod.fst).Sublist names
  | [], _ => List.nil_sublist _
  | _ :: _, [] => List.nil_sublist _
  | name :: names, _ :: items => (map_fst_zip_sublist names items).cons_cons name

/-- What is read for a field is its value. -/
theorem lookup_of_fieldValue (hnames : names.Nodup) (h : FieldValue names name value field)
    (hstruct : struct names value = some members) : members.lookup name = some field := by
  rcases h with ⟨given, rfl, hmem⟩ | ⟨items, rfl, hmem⟩
  · obtain ⟨hboth, rfl⟩ := struct_obj_eq_some.mp hstruct
    exact Assoc.lookup_of_mem hboth.1 hmem
  · obtain ⟨hlength, rfl⟩ := struct_arr_eq_some.mp hstruct
    refine Assoc.lookup_of_mem ?_ hmem
    exact hnames.sublist (map_fst_zip_sublist _ _)

theorem required_eq_none_of_fieldValue {decode : Json → Option α} (hnames : names.Nodup)
    (h : FieldValue names name value field) (hstruct : struct names value = some members)
    (hdecode : decode field = none) : required decode name members = none := by
  unfold required
  rw [lookup_of_fieldValue hnames h hstruct]
  exact hdecode

theorem defaulted_eq_none_of_fieldValue {decode : Json → Option α} {default : α} (hnames : names.Nodup)
    (h : FieldValue names name value field) (hstruct : struct names value = some members)
    (hdecode : decode field = none) : defaulted decode default name members = none := by
  unfold defaulted
  rw [lookup_of_fieldValue hnames h hstruct]
  exact hdecode

/-! ### Members left out -/

/-- The members of `full`, some of those left out that have the values of `defaults`. -/
structure Omits (defaults short full : List (String × Json)) : Prop where
  sublist : short.Sublist full
  kept : ∀ member ∈ full, member ∈ short ∨ defaults.lookup member.1 = some member.2

variable {defaults short full : List (String × Json)} {decode : Json → Option α} {default : α}

theorem struct_of_omits (h : Omits defaults short full) (hstruct : struct names (.obj full) = some full) :
    struct names (.obj short) = some short := by
  obtain ⟨⟨hnodup, hknown⟩, -⟩ := struct_obj_eq_some.mp hstruct
  have hkeys := h.sublist.map Prod.fst
  exact struct_obj_eq_some.mpr ⟨⟨hnodup.sublist hkeys, fun key hkey => hknown key (hkeys.subset hkey)⟩, rfl⟩

/-- A field is read as before, or it is left out. -/
theorem lookup_of_omits (hnodup : (full.map Prod.fst).Nodup) (h : Omits defaults short full) (name : String) :
    short.lookup name = full.lookup name ∨
      (short.lookup name = none ∧
        ∃ value, full.lookup name = some value ∧ defaults.lookup name = some value) := by
  have hkeys := h.sublist.map Prod.fst
  cases hfull : full.lookup name with
  | none =>
    refine .inl (Assoc.lookup_eq_none_iff.mpr fun hmem => ?_)
    exact Assoc.lookup_eq_none_iff.mp hfull (hkeys.subset hmem)
  | some value =>
    have hmem := Assoc.mem_of_lookup hfull
    cases hshort : short.lookup name with
    | none =>
      refine .inr ⟨rfl, value, rfl, (h.kept _ hmem).resolve_left fun hkept => ?_⟩
      exact Assoc.lookup_eq_none_iff.mp hshort (List.mem_map_of_mem hkept)
    | some other =>
      have hother := h.sublist.subset (Assoc.mem_of_lookup hshort)
      rw [← hfull, Assoc.lookup_of_mem hnodup hother]
      exact .inl rfl

/-- A field without a default is not left out. -/
theorem required_of_omits (hnodup : (full.map Prod.fst).Nodup) (h : Omits defaults short full)
    (hnone : defaults.lookup name = none) : required decode name short = required decode name full := by
  unfold required
  rcases lookup_of_omits hnodup h name with hsame | ⟨-, value, -, hdefault⟩
  · rw [hsame]
  · rw [hnone] at hdefault
    cases hdefault

/-- A field that is left out is read as its default. -/
theorem defaulted_of_omits (hnodup : (full.map Prod.fst).Nodup) (h : Omits defaults short full)
    (hdefault : required decode name defaults = some default) :
    defaulted decode default name short = defaulted decode default name full := by
  unfold required at hdefault
  unfold defaulted
  rcases lookup_of_omits hnodup h name with hsame | ⟨hshort, value, hfull, hvalue⟩
  · rw [hsame]
  · rw [hvalue] at hdefault
    rw [hshort, hfull]
    exact hdefault.symm

/-! ### A member in another form -/

/-- The two differ in the value of this field. -/
def Replaced (name : String) (value value' : Json) (members members' : List (String × Json)) : Prop :=
  ∃ before after, members = before ++ (name, value) :: after ∧ members' = before ++ (name, value') :: after

variable {members' : List (String × Json)} {value' : Json} {other : String}

theorem struct_of_replaced (h : Replaced name value value' members members')
    (hstruct : struct names (.obj members) = some members) :
    struct names (.obj members') = some members' := by
  obtain ⟨before, after, rfl, rfl⟩ := h
  obtain ⟨hboth, -⟩ := struct_obj_eq_some.mp hstruct
  rw [List.map_append, List.map_cons] at hboth
  refine struct_obj_eq_some.mpr ⟨?_, rfl⟩
  rw [List.map_append, List.map_cons]
  exact hboth

theorem lookup_of_replaced (h : Replaced name value value' members members') (hne : other ≠ name) :
    members'.lookup other = members.lookup other := by
  obtain ⟨before, after, rfl, rfl⟩ := h
  rw [List.lookup_append, List.lookup_append, List.lookup_cons, List.lookup_cons, beq_false_of_ne hne]

theorem lookup_self_of_replaced (hnodup : (members.map Prod.fst).Nodup)
    (h : Replaced name value value' members members') :
    members.lookup name = some value ∧ members'.lookup name = some value' := by
  obtain ⟨before, after, rfl, rfl⟩ := h
  have hnodup' : ((before ++ (name, value') :: after).map Prod.fst).Nodup := by
    rw [List.map_append, List.map_cons] at hnodup ⊢
    exact hnodup
  exact ⟨Assoc.lookup_of_mem hnodup (List.mem_append_right _ List.mem_cons_self),
    Assoc.lookup_of_mem hnodup' (List.mem_append_right _ List.mem_cons_self)⟩

theorem required_of_replaced {a : α} (hnodup : (members.map Prod.fst).Nodup)
    (h : Replaced name value value' members members')
    (hdecode : decode value = some a → decode value' = some a)
    (hrequired : required decode name members = some a) : required decode name members' = some a := by
  obtain ⟨hlookup, hlookup'⟩ := lookup_self_of_replaced hnodup h
  unfold required at hrequired ⊢
  rw [hlookup] at hrequired
  rw [hlookup']
  exact hdecode hrequired

theorem defaulted_of_replaced {a : α} (hnodup : (members.map Prod.fst).Nodup)
    (h : Replaced name value value' members members')
    (hdecode : decode value = some a → decode value' = some a)
    (hdefaulted : defaulted decode default name members = some a) :
    defaulted decode default name members' = some a := by
  obtain ⟨hlookup, hlookup'⟩ := lookup_self_of_replaced hnodup h
  unfold defaulted at hdefaulted ⊢
  rw [hlookup] at hdefaulted
  rw [hlookup']
  exact hdecode hdefaulted

theorem required_of_replaced_ne (h : Replaced name value value' members members') (hne : other ≠ name) :
    required decode other members' = required decode other members := by
  unfold required
  rw [lookup_of_replaced h hne]

theorem defaulted_of_replaced_ne (h : Replaced name value value' members members') (hne : other ≠ name) :
    defaulted decode default other members' = defaulted decode default other members := by
  unfold defaulted
  rw [lookup_of_replaced h hne]

/-! ### Internally tagged enums -/

/-- The tag and the rest. -/
def tagged (tag : String) : Json → Option (String × Json)
  | .obj members =>
    match members.lookup tag with
    | some (.str variant) =>
      if (members.map Prod.fst).count tag = 1 then
        some (variant, .obj (members.filter fun member => member.1 ≠ tag))
      else none
    | _ => none
  | .arr (.str variant :: items) => some (variant, .arr items)
  | _ => none

/-- An enum whose variants have the given fields; `build` makes a variant of its members. -/
def taggedEnum (tag : String) (fields : String → List String)
    (build : String → List (String × Json) → Option α) (value : Json) : Option α := do
  let (variant, rest) ← tagged tag value
  let members ← struct (fields variant) rest
  build variant members

/-- A key that is neither the tag nor a field of the variant it names. -/
def UnknownVariantField (tag : String) (fields : String → List String) (value : Json) : Prop :=
  ∃ members, value = .obj members ∧ ∃ key ∈ members.map Prod.fst,
    key ≠ tag ∧ ∀ variant, (tag, .str variant) ∈ members → key ∉ fields variant

/-- The name of the variant is all that changes with the tag. -/
theorem tagged_of_replaced {tag variant variant' name : String} {rest : Json}
    (h : Replaced tag (.str variant) (.str variant') members members')
    (htagged : tagged tag (.obj members) = some (name, rest)) :
    name = variant ∧ tagged tag (.obj members') = some (variant', rest) := by
  obtain ⟨before, after, rfl, rfl⟩ := h
  have hkeys : ∀ value : Json, (before ++ (tag, value) :: after).map Prod.fst =
      before.map Prod.fst ++ tag :: after.map Prod.fst := fun value => by
    rw [List.map_append, List.map_cons]
  have hrest : ∀ value : Json, (before ++ (tag, value) :: after).filter (fun member => member.1 ≠ tag) =
      before.filter (fun member => member.1 ≠ tag) ++ after.filter fun member => member.1 ≠ tag := by
    intro value
    rw [List.filter_append, List.filter_cons_of_neg (by simp)]
  unfold tagged at htagged
  dsimp only at htagged
  split at htagged
  · next found hlookup =>
    rw [hkeys, hrest, Option.ite_none_right_eq_some] at htagged
    obtain ⟨hcount, heq⟩ := htagged
    have hbefore : tag ∉ before.map Prod.fst := by
      rw [List.count_append, List.count_cons_self] at hcount
      exact List.count_eq_zero.mp (by omega)
    have hvalue : ∀ value : Json, (before ++ (tag, value) :: after).lookup tag = some value := by
      intro value
      rw [List.lookup_append, Assoc.lookup_eq_none_iff.mpr hbefore, List.lookup_cons_self]
      rfl
    obtain ⟨rfl, rfl⟩ := Prod.mk.inj (Option.some.inj heq)
    rw [hvalue] at hlookup
    refine ⟨(Json.str.inj (Option.some.inj hlookup)).symm, ?_⟩
    unfold tagged
    dsimp only
    rw [hvalue, hkeys, hrest]
    exact if_pos hcount
  · cases htagged

theorem unknown_of_tagged {tag variant : String} {fields : String → List String} {rest : Json}
    (h : UnknownVariantField tag fields value) (htagged : tagged tag value = some (variant, rest)) :
    UnknownField (fields variant) rest := by
  obtain ⟨members, rfl, key, hkey, hne, hunknown⟩ := h
  unfold tagged at htagged
  dsimp only at htagged
  split at htagged
  · next name hlookup =>
    rw [Option.ite_none_right_eq_some] at htagged
    obtain ⟨rfl, rfl⟩ := Prod.mk.inj (Option.some.inj htagged.2)
    obtain ⟨member, hmember, rfl⟩ := List.mem_map.mp hkey
    refine ⟨_, rfl, member.1, ?_, hunknown _ (Assoc.mem_of_lookup hlookup)⟩
    exact List.mem_map_of_mem (List.mem_filter.mpr ⟨hmember, decide_eq_true hne⟩)
  · cases htagged

section TaggedEnum

variable {tag : String} {fields : String → List String}
  {build : String → List (String × Json) → Option α}

theorem taggedEnum_of_tagged {variant : String} {rest : Json}
    (htagged : tagged tag value = some (variant, rest)) :
    taggedEnum tag fields build value = (struct (fields variant) rest).bind (build variant) := by
  unfold taggedEnum
  rw [htagged]
  rfl

/-- Another name of the same variant is read as the first one. -/
theorem taggedEnum_of_replaced {variant variant' : String} {a : α}
    (h : Replaced tag (.str variant) (.str variant') members members')
    (hfields : fields variant' = fields variant) (hbuild : build variant' = build variant)
    (ha : taggedEnum tag fields build (.obj members) = some a) :
    taggedEnum tag fields build (.obj members') = some a := by
  obtain ⟨⟨name, rest⟩, htagged, -⟩ := Option.bind_eq_some_iff.mp ha
  obtain ⟨rfl, htagged'⟩ := tagged_of_replaced h htagged
  rw [taggedEnum_of_tagged htagged', hfields, hbuild, ← taggedEnum_of_tagged htagged]
  exact ha

/-- An unknown key is refused. -/
theorem taggedEnum_eq_none_of_unknown (h : UnknownVariantField tag fields value) :
    taggedEnum tag fields build value = none := by
  rcases htagged : tagged tag value with _ | ⟨variant, rest⟩
  · unfold taggedEnum
    rw [htagged]
    rfl
  · rw [taggedEnum_of_tagged htagged, struct_eq_none_of_unknown (unknown_of_tagged h htagged)]
    rfl

end TaggedEnum

end Serde
