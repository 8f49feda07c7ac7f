import InventoryQuery.Shell.Run

/-! What a run leaves behind. A changed file does not change where the paths that lead
somewhere lead, only what is found there, so a text that was saved under a path is read
back under it and every other file stays as it was. -/
namespace InventoryQuery

namespace Directory

variable {d written : Directory} {key path text : String} {content : ByteArray}

theorem lookup_filter_ne {name : String} (other : name ≠ key)
    (files : List (String × ByteArray)) :
    (files.filter (·.1 != key)).lookup name = files.lookup name := by
  induction files with
  | nil => rfl
  | cons head rest ih =>
    obtain ⟨label, value⟩ := head
    by_cases gone : label = key
    · subst gone
      rw [List.filter_cons_of_neg (by simp), ih, List.lookup_cons, beq_false_of_ne other]
    · rw [List.filter_cons_of_pos (by simpa using gone), List.lookup_cons, List.lookup_cons, ih]

theorem bytes?_put (d : Directory) (key : String) (content : ByteArray) (name : String) :
    (d.put key content).bytes? name = if name = key then some content else d.bytes? name := by
  rw [bytes?, put, List.lookup_cons]
  by_cases here : name = key
  · rw [if_pos here, here, beq_self_eq_true]
  · rw [if_neg here, beq_false_of_ne here, bytes?]
    exact lookup_filter_ne here d.files

/-- A place once there is a content under a key. -/
def Place.changed (key : String) (content : ByteArray) : Place → Place
  | .folder f => .folder f
  | .file k c => .file k (if k = key then content else c)
  | .free k => if k = key then .file k content else .free k
  | .unnamable => .unnamable

theorem lookUp_put (f : Folder) (step : String) :
    (d.put key content).lookUp f step = (d.lookUp f step).changed key content := by
  rw [lookUp, lookUp]
  split
  · rfl
  split
  · rfl
  split
  · rfl
  rw [bytes?_put]
  by_cases here : f.key step = key
  · rw [if_pos here]
    cases d.bytes? (f.key step) <;> simp [Place.changed, here]
  · rw [if_neg here]
    cases d.bytes? (f.key step) <;> simp [Place.changed, here]

theorem walk_put {start place : Place} {steps : List String}
    (leads : d.walk start steps = .ok place) :
    (d.put key content).walk (start.changed key content) steps =
      .ok (place.changed key content) := by
  induction steps generalizing start with
  | nil =>
    obtain rfl := Except.ok.inj leads
    rfl
  | cons step rest ih =>
    -- Only from a folder another step leads on, and folders do not change.
    cases start with
    | folder f =>
      have next := ih leads
      rw [← lookUp_put] at next
      exact next
    | file | free | unnamable => cases leads

theorem resolve_put {place : Place} (leads : d.resolve path = .ok place) :
    (d.put key content).resolve path = .ok (place.changed key content) := by
  rw [resolve] at leads ⊢
  split at leads
  · cases leads
  next visible =>
  split at leads
  · cases leads
  next whole =>
  split at leads
  · cases leads
  next short =>
  rw [if_neg visible, if_neg whole, if_neg short]
  exact walk_put leads

theorem writeBytes_leads (writes : d.writeBytes path content = .ok written) :
    ∃ key, written = d.put key content ∧ asksForFolder path = false ∧
      written.resolve path = .ok (.file key content) := by
  rw [writeBytes] at writes
  split at writes
  · cases writes
  next place leads =>
  split at writes
  · cases writes
  next named =>
  cases place with
  | folder | unnamable => cases writes
  | file key old | free key =>
    obtain rfl := Except.ok.inj writes
    refine ⟨key, rfl, Bool.eq_false_iff.2 named, (resolve_put leads).trans ?_⟩
    simp [Place.changed]

theorem readBytes_eq_ok_iff :
    d.readBytes path = .ok content ↔
      asksForFolder path = false ∧ ∃ key, d.resolve path = .ok (.file key content) := by
  rw [readBytes]
  rcases d.resolve path with cause | (f | ⟨key, found⟩ | key | _)
  · simp
  · simp
  · cases asksForFolder path <;> simp
  · simp
  · simp

theorem readText_eq_ok_iff :
    d.readText path = .ok text ↔
      ∃ content, d.readBytes path = .ok content ∧ String.fromUTF8? content = some text := by
  rw [readText]
  cases d.readBytes path with
  | error cause => simp
  | ok content => cases decoded : String.fromUTF8? content <;> simp [decoded]

theorem fromUTF8?_toUTF8 (text : String) : String.fromUTF8? text.toUTF8 = some text :=
  dif_pos text.isValidUTF8

theorem readText_writeText (writes : d.writeText path text = .ok written) :
    written.readText path = .ok text := by
  obtain ⟨key, -, named, leads⟩ := writeBytes_leads writes
  exact readText_eq_ok_iff.2
    ⟨_, readBytes_eq_ok_iff.2 ⟨named, key, leads⟩, fromUTF8?_toUTF8 text⟩

theorem readText_writeText_other {other old : String}
    (writes : d.writeText path text = .ok written) (had : d.readText other = .ok old) :
    written.readText other = .ok old ∨ written.readText other = .ok text := by
  obtain ⟨key, rfl, -⟩ := writeBytes_leads writes
  obtain ⟨content, found, decoded⟩ := readText_eq_ok_iff.1 had
  obtain ⟨named, own, leads⟩ := readBytes_eq_ok_iff.1 found
  have still : (d.put key text.toUTF8).resolve other =
      .ok (.file own (if own = key then text.toUTF8 else content)) := resolve_put leads
  have reads := readBytes_eq_ok_iff.2 ⟨named, own, still⟩
  split at reads
  · exact .inr (readText_eq_ok_iff.2 ⟨_, reads, fromUTF8?_toUTF8 text⟩)
  · exact .inl (readText_eq_ok_iff.2 ⟨content, reads, decoded⟩)

end Directory

namespace Shell

variable {d : Directory} {events : List Event} {text : String} {environment : Settings}

/-- What becomes of a text that was computed. It is printed as a line, or it is saved as it
is in the named file and all other files keep theirs. Where the file cannot be written the
run fails and leaves nothing. -/
inductive Leaves (d : Directory) (events : List Event) (text : String) :
    Option String → Outcome → Prop
  | printed : Leaves d events text none ⟨text ++ "\n", d, events, none⟩
  | saved {path : String} {written : Directory} (writes : d.writeText path text = .ok written)
      (reads : written.readText path = .ok text)
      (others : ∀ other old, d.readText other = .ok old →
        written.readText other = .ok old ∨ written.readText other = .ok text) :
      Leaves d events text (some path) ⟨"", written, events, none⟩
  | unsaved {path : String} {cause : FileError}
      (refused : d.writeText path text = .error cause) :
      Leaves d events text (some path) ⟨"", d, events, some (.output cause)⟩

theorem leaves_emit (d : Directory) (events : List Event) (text : String)
    (save : Option String) : Leaves d events text save (emit d events text save) := by
  cases save with
  | none => exact .printed
  | some path =>
    rw [emit]
    cases saving : d.writeText path text with
    | ok written =>
      exact .saved saving (Directory.readText_writeText saving) fun _ _ =>
        Directory.readText_writeText_other saving
    | error cause => exact .unsaved saving

theorem run_of_ok {command : Command}
    (computed : (output d.readText environment command).result = .ok text) :
    run d environment command =
      emit d (output d.readText environment command).events text (savePath? command) := by
  rw [run, computed]

theorem run_of_error {command : Command} {cause : ShellError}
    (failed : (output d.readText environment command).result = .error cause) :
    run d environment command =
      ⟨"", d, (output d.readText environment command).events, some cause⟩ := by
  rw [run, failed]

end Shell

end InventoryQuery
