import KidProxy.Lib.Text
import KidProxy.TimeOrder
import KidProxy.Event

/-!
# EventRow — a row keeps all of its event

`eventToActiveModel` turns identifiers, instants, kinds and results into texts.  Each of these texts is
read back in one way only, so two events that make the same row are the same event; in particular the
primary key is the identifier.
-/

namespace KidProxy

/-- The digits of a UUID are read back from its text. -/
theorem Uuid.hexNumber_toText (uuid : Uuid) : Text.hexNumber uuid.toText.toList = uuid.bits.toNat := by
  have hdash : ∀ cs, ('-' :: cs).filterMap Text.hexValue = cs.filterMap Text.hexValue := fun cs => by
    rw [List.filterMap_cons_none (by decide)]
  -- without the dashes the groups are the digits again
  have hgroups : ∀ ds : List Char, (ds.take 8 ++ '-' :: (ds.drop 8).take 4 ++ '-' :: (ds.drop 12).take 4 ++
      '-' :: (ds.drop 16).take 4 ++ '-' :: ds.drop 20).filterMap Text.hexValue =
      ds.filterMap Text.hexValue := by
    intro ds
    have hsplit : ds = ds.take 8 ++ ((ds.drop 8).take 4 ++ ((ds.drop 12).take 4 ++
        ((ds.drop 16).take 4 ++ ds.drop 20))) := by
      have hcut : ∀ m n, ds.drop m = (ds.drop m).take n ++ ds.drop (m + n) := fun m n => by
        rw [← List.drop_drop, List.take_append_drop]
      rw [← hcut 16 4, ← hcut 12 4, ← hcut 8 4, List.take_append_drop]
    simp only [List.filterMap_append, hdash, List.append_assoc]
    rw [← List.filterMap_append, ← List.filterMap_append, ← List.filterMap_append,
      ← List.filterMap_append, ← hsplit]
  unfold Uuid.toText Text.hexNumber
  simp only [String.toList_ofList]
  rw [hgroups]
  show Text.hexNumber (_ ++ _) = _
  rw [Text.hexNumber_zeros, Text.hexNumber_toDigits]

theorem Uuid.toText_injective : Function.Injective Uuid.toText := by
  intro a b h
  have hbits : a.bits.toNat = b.bits.toNat := by
    rw [← a.hexNumber_toText, ← b.hexNumber_toText, h]
  obtain ⟨a⟩ := a
  obtain ⟨b⟩ := b
  exact congrArg Uuid.mk (BitVec.eq_of_toNat_eq hbits)

theorem ErrorKind.asStr_injective : Function.Injective ErrorKind.asStr := by
  intro a b h
  cases a <;> cases b <;> first | rfl | exact absurd h (by decide)

theorem ProxyResult.asStr_injective : Function.Injective ProxyResult.asStr := by
  intro a b h
  cases a <;> cases b <;> first | rfl | exact absurd h (by decide)

namespace OffsetDateTime

/-- An instant is read back from the text that is stored for it. -/
theorem eq_of_formatTimestamp {t u : OffsetDateTime} {a : String} (ht : formatTimestamp t = .ok a)
    (hu : formatTimestamp u = .ok a) : t = u := by
  obtain ⟨hty, hta⟩ := formatRfc3339_eq_some.mp (contextSome_eq_ok.mp ht)
  obtain ⟨huy, hua⟩ := formatRfc3339_eq_some.mp (contextSome_eq_ok.mp hu)
  have htext : t.text = u.text := String.ofList_injective (hta.symm.trans hua)
  have hnanos := unixNanos_eq_of_text hty huy htext
  rw [unixNanos_eq, unixNanos_eq] at hnanos
  have htn : t.nanosecond < 10 ^ 9 := t.valid.2.2.2.2.2.2.2.2.2
  have hun : u.nanosecond < 10 ^ 9 := u.valid.2.2.2.2.2.2.2.2.2
  have hseconds : t.unixSeconds = u.unixSeconds := by omega
  have hnano : t.nanosecond = u.nanosecond := by omega
  rcases secondBefore_cases t u with hlt | hgt | ⟨hy, hmo, hd, hh, hmi, hs⟩
  · have := unixSeconds_lt hlt
    omega
  · have := unixSeconds_lt hgt
    omega
  · obtain ⟨year, month, day, hour, minute, second, nanosecond, valid⟩ := t
    obtain ⟨year', month', day', hour', minute', second', nanosecond', valid'⟩ := u
    simp only at hy hmo hd hh hmi hs hnano
    subst hy hmo hd hh hmi hs hnano
    rfl

end OffsetDateTime

theorem formatOptionalTimestamp_some {t : OffsetDateTime} {a : Option String}
    (h : formatOptionalTimestamp (some t) = .ok a) : ∃ b, a = some b ∧ formatTimestamp t = .ok b := by
  have h : (formatTimestamp t).map some = .ok a := h
  cases ht : formatTimestamp t with
  | error err =>
    rw [ht] at h
    cases h
  | ok b =>
    rw [ht] at h
    cases h
    exact ⟨b, rfl, rfl⟩

theorem eq_of_formatOptionalTimestamp {o p : Option OffsetDateTime} {a : Option String}
    (ho : formatOptionalTimestamp o = .ok a) (hp : formatOptionalTimestamp p = .ok a) : o = p := by
  rcases o with _ | t
  · rcases p with _ | u
    · rfl
    · obtain ⟨b, rfl, -⟩ := formatOptionalTimestamp_some hp
      cases ho
  · obtain ⟨b, rfl, ht⟩ := formatOptionalTimestamp_some ho
    rcases p with _ | u
    · cases hp
    · obtain ⟨b', hb, hu⟩ := formatOptionalTimestamp_some hp
      obtain rfl := Option.some.inj hb
      rw [OffsetDateTime.eq_of_formatTimestamp ht hu]

theorem eventId_of_row {event : ProxyEvent} {row : ActiveModel} (h : eventToActiveModel event = .ok row) :
    row.eventId = event.eventId.toText := by
  obtain ⟨_, -, h⟩ := bind_eq_ok.mp h
  obtain ⟨_, -, h⟩ := bind_eq_ok.mp h
  obtain ⟨_, -, h⟩ := bind_eq_ok.mp h
  obtain ⟨_, -, h⟩ := bind_eq_ok.mp h
  obtain rfl := Except.ok.inj h
  rfl

/-- **A row determines its event**: two events that are stored as the same row are the same. -/
theorem event_of_row {event event' : ProxyEvent} {row : ActiveModel}
    (h : eventToActiveModel event = .ok row) (h' : eventToActiveModel event' = .ok row) :
    event = event' := by
  obtain ⟨start, hstart, h⟩ := bind_eq_ok.mp h
  obtain ⟨stop, hstop, h⟩ := bind_eq_ok.mp h
  obtain ⟨notBefore, hnotBefore, h⟩ := bind_eq_ok.mp h
  obtain ⟨notAfter, hnotAfter, h⟩ := bind_eq_ok.mp h
  obtain ⟨start', hstart', h'⟩ := bind_eq_ok.mp h'
  obtain ⟨stop', hstop', h'⟩ := bind_eq_ok.mp h'
  obtain ⟨notBefore', hnotBefore', h'⟩ := bind_eq_ok.mp h'
  obtain ⟨notAfter', hnotAfter', h'⟩ := bind_eq_ok.mp h'
  have hrow := (Except.ok.inj h).trans (Except.ok.inj h').symm
  have hport : ∀ a b : Option ℕ, (a.map fun n => (n : ℤ) : Option ℤ) = (b.map fun n => (n : ℤ)) ↔ a = b :=
    fun a b => by cases a <;> cases b <;> simp
  have hkind := Option.map_injective ErrorKind.asStr_injective
  have hs : event.requestStartTs = event'.requestStartTs := by
    rw [show start = start' from congrArg ActiveModel.requestStartTs hrow] at hstart
    exact OffsetDateTime.eq_of_formatTimestamp hstart hstart'
  have he : event.requestEndTs = event'.requestEndTs := by
    rw [show stop = stop' from congrArg ActiveModel.requestEndTs hrow] at hstop
    exact OffsetDateTime.eq_of_formatTimestamp hstop hstop'
  have hb : event.backendCertNotBefore = event'.backendCertNotBefore := by
    rw [show notBefore = notBefore' from congrArg ActiveModel.backendCertNotBefore hrow] at hnotBefore
    exact eq_of_formatOptionalTimestamp hnotBefore hnotBefore'
  have ha : event.backendCertNotAfter = event'.backendCertNotAfter := by
    rw [show notAfter = notAfter' from congrArg ActiveModel.backendCertNotAfter hrow] at hnotAfter
    exact eq_of_formatOptionalTimestamp hnotAfter hnotAfter'
  cases event
  cases event'
  simp only at hs he hb ha
  simp only [ActiveModel.mk.injEq, Uuid.toText_injective.eq_iff, hport, hkind.eq_iff,
    ProxyResult.asStr_injective.eq_iff] at hrow
  simp only [hs, he, hb, ha, hrow]

theorem event_of_row_sample : ∃ row, eventToActiveModel sampleEvent = .ok row ∧
    ∀ event, eventToActiveModel event = .ok row → event = sampleEvent := by
  obtain ⟨row, hrow⟩ := eventToActiveModel_isOk.mpr sampleEvent_printable
  exact ⟨row, hrow, fun event h => event_of_row h hrow⟩

end KidProxy
