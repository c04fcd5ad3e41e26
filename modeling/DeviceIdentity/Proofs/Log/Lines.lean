import DeviceIdentity.Log.Console
import DeviceIdentity.Proofs.CaExchange
import DeviceIdentity.Proofs.Text.Pieces

/-!
# What the lines of a log are

A console ends every record with a line feed, and whoever reads the log takes each line for a
record.  Which records are written is decided twice: by the process, which orders logs by how much
they let through, and by the router, which orders records by how severe they are.  What stands in a
record is not decided at all.  A message may have a line feed, and then it makes more than one line,
each but the first of which is whatever its author made up; and parts of messages come from the
certificate authority.

* `LogRecord.Passes` — which records should be written; `LogRecord.entry` — what should be written
  of one; `accepts_iff`, `toList_line` — the router and the console do this.
* `LogUse`, `LogSystem.runUses` — what a process does with its log; `use_installed`,
  `runUses_installed` — what one use and any number of them write.
* `IsLines` — the lines that a text is made of; `IsLines.unique` — it is made of no others.
* `isLines_written` — the lines of a log, record by record; `isLines_entries_iff` — one for each
  record exactly if no record has a line feed.
* **`log_made_of_entries`** — all of this together; **`hub_name_adds_line`** — a hub whose name
  writes a line of the log.
-/

namespace DeviceIdentity

/-! ## Records -/

/-- The name of a level in five characters. -/
def LogLevel.column : LogLevel → List Char
  | trace => ['t', 'r', 'a', 'c', 'e']
  | debug => ['d', 'e', 'b', 'u', 'g']
  | info => ['i', 'n', 'f', 'o', ' ']
  | warn => ['w', 'a', 'r', 'n', ' ']
  | error => ['e', 'r', 'r', 'o', 'r']

/-- The process lets a severity through exactly if it is not below the one asked for: the order of
verbosities is that of severities turned around. -/
lemma LogLevel.verbosity_le_iff {a b : LogLevel} : a.verbosity ≤ b.verbosity ↔ b ≤ a := by
  cases a <;> cases b <;> decide

@[simp] lemma LogLevel.threshold?_verbosity (level : LogLevel) :
    level.verbosity.threshold? = some level := by
  cases level <;> rfl

namespace LogRecord

variable {record : LogRecord} {minimum : LogLevel}

/-- A record that should be written: it is as severe as asked for, and reports progress or worse,
or else comes from this system. -/
def Passes (minimum : LogLevel) (record : LogRecord) : Prop :=
  minimum ≤ record.level ∧
    (LogLevel.info ≤ record.level ∨ "huk_identity".toList <+: record.target.toList)

instance (minimum : LogLevel) (record : LogRecord) : Decidable (record.Passes minimum) :=
  inferInstanceAs (Decidable (_ ∧ _))

/-- What should be written of a record. -/
def entry (record : LogRecord) : List Char :=
  record.level.column ++ ' ' :: (record.target.toList ++ ':' :: ' ' :: record.message.toList)

lemma accepts_iff :
    (LogRouter.mk minimum).accepts record.level record.target = true ↔ record.Passes minimum := by
  simp [LogRouter.accepts, LogRouter.isOwn, LogRouter.ownTargets, Passes]

lemma toList_line (record : LogRecord) : record.line.toList = record.entry ++ ['\n'] := by
  have hcolumn : (Pad.left 5 record.level.name).toList = record.level.column := by
    cases record.level <;> decide
  simp [line, entry, hcolumn]

/-- A line feed in what is written of a record is one of its target or of its message. -/
lemma newline_notMem_entry_iff :
    '\n' ∉ record.entry ↔ '\n' ∉ record.target.toList ∧ '\n' ∉ record.message.toList := by
  have hcolumn : '\n' ∉ record.level.column := by cases record.level <;> decide
  simp [entry, hcolumn]

end LogRecord

/-! ## What a process does with its log -/

/-- One use that a process makes of its log. -/
inductive LogUse where
  /-- A record is emitted. -/
  | emit (record : LogRecord)
  /-- A record is handed straight to the backend. -/
  | deliver (record : LogRecord)
  /-- A backend is installed. -/
  | install (minimum : LogLevel)

/-- The record of a use, if it has one. -/
def LogUse.record? : LogUse → Option LogRecord
  | emit record => some record
  | deliver record => some record
  | install _ => none

/-- The records of some uses that should be written, in order. -/
def LogUse.passed (minimum : LogLevel) (uses : List LogUse) : List LogRecord :=
  (uses.filterMap record?).filter (·.Passes minimum)

lemma LogUse.passed_append (minimum : LogLevel) (uses more : List LogUse) :
    passed minimum (uses ++ more) = passed minimum uses ++ passed minimum more := by
  simp [passed]

namespace LogSystem

/-- The state after one use; installing a backend where it is refused changes nothing. -/
def use (system : LogSystem) : LogUse → LogSystem
  | .emit record => system.emit record
  | .deliver record => system.deliver record
  | .install minimum => (system.install minimum).toOption.getD system

/-- The state after some uses. -/
def runUses (system : LogSystem) (uses : List LogUse) : LogSystem :=
  uses.foldl use system

/-- A backend is in place, and process and router agree on what it is for. -/
structure Installed (system : LogSystem) (minimum : LogLevel) : Prop where
  router : system.router = some ⟨minimum⟩
  verbosity : system.verbosity = minimum.verbosity

variable {system : LogSystem} {minimum : LogLevel}

/-- The first backend is installed, and the log is empty. -/
lemma install_empty (minimum : LogLevel) :
    ∃ system, LogSystem.install minimum {} = .ok system ∧ system.Installed minimum ∧
      system.written = "" :=
  ⟨_, rfl, ⟨rfl, rfl⟩, rfl⟩

/-- There is no second backend. -/
lemma install_installed (h : system.Installed minimum) (other : LogLevel) :
    system.install other = .error (.invalidInput "a log backend is already installed") := by
  rw [install, h.router]

lemma deliver_installed (h : system.Installed minimum) (record : LogRecord) :
    system.deliver record =
      if record.Passes minimum then { system with written := system.written ++ record.line }
      else system := by
  simp [deliver, h.router, LogRecord.accepts_iff]

/-- What the process drops, the router would have dropped as well. -/
lemma emit_installed (h : system.Installed minimum) (record : LogRecord) :
    system.emit record = system.deliver record := by
  unfold emit
  split_ifs with hlet
  · rfl
  · rw [h.verbosity, LogLevel.verbosity_le_iff] at hlet
    rw [deliver_installed h, if_neg fun hpasses => hlet hpasses.1]

/-- One use writes its record if it should be written, and changes nothing else. -/
lemma use_installed (h : system.Installed minimum) (use : LogUse) :
    system.use use = { system with
      written := system.written ++ String.join ((LogUse.passed minimum [use]).map (·.line)) } := by
  have hdeliver (record : LogRecord) : system.deliver record = { system with
      written := system.written ++
        String.join (([record].filter (·.Passes minimum)).map (·.line)) } := by
    rw [deliver_installed h]
    by_cases hpasses : record.Passes minimum <;> simp [hpasses]
  cases use with
  | emit record => exact (emit_installed h record).trans (hdeliver record)
  | deliver record => exact hdeliver record
  | install other =>
    have hnone : LogUse.passed minimum [.install other] = [] := rfl
    rw [LogSystem.use, install_installed h, hnone]
    simp [Except.toOption]

lemma Installed.use (h : system.Installed minimum) (use : LogUse) :
    (system.use use).Installed minimum := by
  rw [use_installed h]
  exact ⟨h.router, h.verbosity⟩

/-- Any number of uses write the records that should be written, in order, and change nothing
else. -/
lemma runUses_installed (h : system.Installed minimum) (uses : List LogUse) :
    system.runUses uses = { system with
      written := system.written ++ String.join ((LogUse.passed minimum uses).map (·.line)) } := by
  induction uses generalizing system with
  | nil => simp [runUses, LogUse.passed]
  | cons use rest ih =>
    have hrest := ih (h.use use)
    have hpassed := LogUse.passed_append minimum [use] rest
    rw [List.singleton_append] at hpassed
    rw [runUses, List.foldl_cons, ← runUses, hrest, use_installed h, hpassed]
    simp [String.append_assoc]

lemma Installed.runUses (h : system.Installed minimum) (uses : List LogUse) :
    (system.runUses uses).Installed minimum := by
  rw [runUses_installed h]
  exact ⟨h.router, h.verbosity⟩

end LogSystem

/-! ## Lines -/

/-- The lines that a text is made of.  Every line ends with a line feed and has no other. -/
structure IsLines (text : List Char) (lines : List (List Char)) : Prop where
  text_eq : text = lines.flatMap (· ++ ['\n'])
  whole : ∀ line ∈ lines, '\n' ∉ line

namespace IsLines

variable {text text' : List Char} {lines lines' : List (List Char)}

lemma nil : IsLines [] [] :=
  ⟨rfl, by simp⟩

lemma append (h : IsLines text lines) (h' : IsLines text' lines') :
    IsLines (text ++ text') (lines ++ lines') where
  text_eq := by rw [List.flatMap_append, ← h.text_eq, ← h'.text_eq]
  whole line hline := (List.mem_append.1 hline).elim (h.whole line) (h'.whole line)

/-- A text is made of its lines and of no others. -/
lemma unique (h : IsLines text lines) (h' : IsLines text lines') : lines = lines' := by
  obtain ⟨heq, hwhole⟩ := h
  obtain ⟨heq', hwhole'⟩ := h'
  replace heq := heq.symm.trans heq'
  clear heq'
  induction lines generalizing lines' with
  | nil => cases lines' <;> simp_all
  | cons line rest ih =>
    cases lines' with
    | nil => simp at heq
    | cons line' rest' =>
      rw [List.forall_mem_cons] at hwhole hwhole'
      simp only [List.flatMap_cons, List.append_assoc, List.singleton_append] at heq
      obtain ⟨rfl, hrest⟩ := append_cons_inj hwhole.1 hwhole'.1 heq
      rw [ih hwhole.2 hwhole'.2 hrest]

end IsLines

/-- The lines of a text that ends with a line feed stand between its other line feeds. -/
lemma isLines_splitOn (cs : List Char) : IsLines (cs ++ ['\n']) (cs.splitOn '\n') where
  text_eq := by
    rw [flatMap_append_singleton (List.splitOn_ne_nil '\n' cs), List.intercalate_splitOn]
  whole _ := notMem_of_mem_splitOn

namespace LogRecord

variable {records : List LogRecord}

lemma toList_join_line (records : List LogRecord) :
    (String.join (records.map (·.line))).toList = records.flatMap (·.entry ++ ['\n']) := by
  induction records with
  | nil => simp
  | cons record rest ih => simp [ih, toList_line]

/-- The lines of a log are those of its records, one record after the other. -/
lemma isLines_written (records : List LogRecord) :
    IsLines (String.join (records.map (·.line))).toList
      (records.flatMap (·.entry.splitOn '\n')) := by
  induction records with
  | nil => simpa using IsLines.nil
  | cons record rest ih =>
    have hrecord := isLines_splitOn record.entry
    simpa [toList_line] using hrecord.append ih

/-- A log has one line for each record exactly if no record has a line feed. -/
lemma isLines_entries_iff :
    IsLines (String.join (records.map (·.line))).toList (records.map (·.entry)) ↔
      ∀ record ∈ records, '\n' ∉ record.target.toList ∧ '\n' ∉ record.message.toList := by
  simp only [← newline_notMem_entry_iff]
  constructor
  · intro h record hrecord
    exact h.whole _ (List.mem_map_of_mem hrecord)
  · intro h
    refine ⟨?_, List.forall_mem_map.2 h⟩
    rw [toList_join_line, List.flatMap_map]

end LogRecord

namespace LogSystem

/-- **What a log is made of.**  Once a backend is installed, there is no other, and the severity
asked for stays in force.  Whatever the process does with its log, what is written is the entry of
each record that should be written, in order, and a line feed behind each.  So every line is a part
of one record, and it is a whole record everywhere exactly if no text that was reported had a line
feed. -/
theorem log_made_of_entries (minimum : LogLevel) (uses : List LogUse) :
    ∃ system, LogSystem.install minimum {} = .ok system ∧
      let reached := system.runUses uses
      let passed := LogUse.passed minimum uses
      reached.router = some ⟨minimum⟩ ∧ reached.threshold = some minimum ∧
        (∀ other, reached.install other =
          .error (.invalidInput "a log backend is already installed")) ∧
        reached.written.toList = passed.flatMap (·.entry ++ ['\n']) ∧
        (∀ lines, IsLines reached.written.toList lines ↔
          lines = passed.flatMap (·.entry.splitOn '\n')) ∧
        (IsLines reached.written.toList (passed.map (·.entry)) ↔
          ∀ record ∈ passed, '\n' ∉ record.target.toList ∧ '\n' ∉ record.message.toList) := by
  obtain ⟨system, hinstall, hinstalled, hempty⟩ := install_empty minimum
  refine ⟨system, hinstall, ?_⟩
  intro reached passed
  have hreached : reached.Installed minimum := hinstalled.runUses uses
  have hwritten : reached.written = String.join (passed.map (·.line)) := by
    simp only [reached, passed, runUses_installed hinstalled, hempty, String.empty_append]
  have hparts := LogRecord.isLines_written passed
  rw [threshold, hreached.verbosity, hwritten]
  refine ⟨hreached.router, LogLevel.threshold?_verbosity minimum, install_installed hreached,
    LogRecord.toList_join_line passed, fun lines => ⟨fun h => h.unique hparts, ?_⟩,
    LogRecord.isLines_entries_iff⟩
  rintro rfl
  exact hparts

/-- **A hub can write a line of the log.**  The name of this hub has a line feed, and behind it
the beginning of an entry.  Storing its record is reported as progress, and what is written of this
one record is what would have been written of two, the second an error of another part of the
system. -/
theorem hub_name_adds_line :
    let name := "h\nerror huk_identity_core::csr: forged"
    let octets : Bytes := [0xA4, 0x01, 0x00, 0x02, 0x42, 0xAA, 0xBB, 0x03, 0x78, 0x26] ++
      Bytes.ofText name ++ [0x04, 0x19, 0x07, 0x5B]
    let record : LogRecord := ⟨.info, "huk_identity_core::provision",
      "device provisioned: 2 bytes of certificate, hub " ++ name ++ ":1883"⟩
    CaResponse.parse octets = .ok ⟨0, ⟨[0xAA, 0xBB], name, 1883⟩⟩ ∧
      record ∈ ((CaExchange.apply octets).run (none, KeyTable.empty)).log ∧
      transcript [record] = transcript
        [⟨.info, "huk_identity_core::provision",
            "device provisioned: 2 bytes of certificate, hub h"⟩,
          ⟨.error, "huk_identity_core::csr", "forged:1883"⟩] ∧
      ¬ ∀ (minimum : LogLevel) (uses : List LogUse) (system : LogSystem),
        LogSystem.install minimum {} = .ok system →
          IsLines (system.runUses uses).written.toList
            ((LogUse.passed minimum uses).map (·.entry)) := by
  intro name octets record
  refine ⟨by decide +kernel, by decide +kernel, by decide +kernel, fun hclaim => ?_⟩
  obtain ⟨system, hinstall, hinstalled, hempty⟩ := install_empty .info
  have hlines := hclaim .info [.emit record] system hinstall
  rw [runUses_installed hinstalled, hempty, String.empty_append,
    LogRecord.isLines_entries_iff] at hlines
  have hpassed : record ∈ LogUse.passed .info [.emit record] := by decide
  exact absurd (hlines record hpassed).2 (by decide)

end LogSystem

end DeviceIdentity
