import FirmwareSurvey.Proofs.Text.Lines
import FirmwareSurvey.Proofs.Text.Numeral
import FirmwareSurvey.Rootfs.Port

/-!
# The ports of a text that goes on

A line sets at most one port: of the directives that find a number in it, the first whose number is
one of 16 bits decides, and those after it have no say even when that number is zero (`Sets`). The
ports of a text are those its lines set, each told by the first line that sets it
(`mem_told_iff`). So a text behind whole lines adds its ports in order, but for those that are told
already (`told_append`).
-/

namespace FirmwareSurvey.Rootfs

open Text

/-! ### The port of a line -/

/-- Whether a directive finds a number of 16 bits in a line. -/
def Finds (directive : List Char → Option (List Char)) (line : List Char) (n : Nat) : Prop :=
  ∃ digits, directive (skipBlanks line) = some digits ∧ IsDecimal digits n ∧ n < 2 ^ 16

/-- Whether a line sets a port: of the directives that find a number of 16 bits in it, the first one
finds this number. -/
def Sets (line : List Char) (n : Nat) : Prop :=
  ∃ earlier directive later, directives = earlier ++ directive :: later ∧
    Finds directive line n ∧ ∀ d ∈ earlier, ∀ m, ¬Finds d line m

theorem bind_unsigned?_eq_some_iff {directive : List Char → Option (List Char)} {line : List Char}
    {n : Nat} : (directive (skipBlanks line)).bind (unsigned? 10 portLimit) = some n ↔
      Finds directive line n := by
  rw [Option.bind_eq_some_iff]
  exact exists_congr fun digits => and_congr_right fun _ => unsigned?_ten_eq_some_iff

theorem portOf?_eq_some_iff {line : List Char} {n : Nat} : portOf? line = some n ↔ Sets line n := by
  rw [portOf?, List.findSome?_eq_some_iff]
  refine exists_congr fun earlier => exists_congr fun directive => exists_congr fun later => ?_
  refine and_congr_right fun _ => and_congr bind_unsigned?_eq_some_iff ?_
  refine forall₂_congr fun d _ => ?_
  rw [Option.eq_none_iff_forall_ne_some]
  exact forall_congr' fun m => not_congr bind_unsigned?_eq_some_iff

/-! ### Ports told line by line -/

/-- The port that a line tells of a file. -/
def portAt (file : String) (line : List Char) (n : Nat) : Port :=
  ⟨n, file, String.ofList (trimChars line)⟩

/-- The numbers of ports. -/
def numbers (ports : List Port) : List Nat := ports.map (·.number)

/-- What a line adds to known ports: the one that it sets, unless this is zero or known. -/
def added (file : String) (known : List Port) (line : List Char) : List Port :=
  ((portOf? line).filter fun n => n ≠ 0 ∧ n ∉ numbers known).toList.map (portAt file line)

/-- The ports told of some lines. -/
def told (file : String) (lines : List (List Char)) : List Port := lines.foldl (addPort file) []

variable {file : String} {known : List Port} {line : List Char} {lines : List (List Char)}

@[simp] theorem numbers_append (ps qs : List Port) : numbers (ps ++ qs) = numbers ps ++ numbers qs :=
  List.map_append

theorem addPort_eq : addPort file known line = known ++ added file known line := by
  rw [addPort, added]
  cases portOf? line with
  | none => simp
  | some n =>
    have hknown : (!known.any (·.number == n)) = true ↔ n ∉ numbers known := by
      simp [numbers]
    simp only [hknown, Option.filter_some, decide_eq_true_eq]
    split
    · rfl
    · exact (List.append_nil _).symm

theorem mem_added_iff {p : Port} : p ∈ added file known line ↔
    portOf? line = some p.number ∧ p.number ≠ 0 ∧ p.number ∉ numbers known ∧
      p = portAt file line p.number := by
  simp only [added, List.mem_map, Option.mem_toList, Option.filter_eq_some_iff,
    decide_eq_true_eq]
  constructor
  · rintro ⟨n, ⟨hline, hn, hnew⟩, rfl⟩
    exact ⟨hline, hn, hnew, rfl⟩
  · rintro ⟨hline, hn, hnew, hp⟩
    exact ⟨p.number, ⟨hline, hn, hnew⟩, hp.symm⟩

theorem mem_numbers_added_iff {n : Nat} : n ∈ numbers (added file known line) ↔
    portOf? line = some n ∧ n ≠ 0 ∧ n ∉ numbers known := by
  rw [numbers, List.mem_map]
  constructor
  · rintro ⟨p, hp, rfl⟩
    obtain ⟨hline, hn, hnew, -⟩ := mem_added_iff.1 hp
    exact ⟨hline, hn, hnew⟩
  · rintro ⟨hline, hn, hnew⟩
    exact ⟨portAt file line n, mem_added_iff.2 ⟨hline, hn, hnew, rfl⟩, rfl⟩

theorem told_concat (lines : List (List Char)) (line : List Char) :
    told file (lines ++ [line]) = told file lines ++ added file (told file lines) line := by
  rw [told, List.foldl_append]
  exact addPort_eq

/-- **The numbers that are told** are those that some line sets, but for zero. -/
theorem mem_numbers_told_iff {n : Nat} :
    n ∈ numbers (told file lines) ↔ n ≠ 0 ∧ ∃ line ∈ lines, portOf? line = some n := by
  induction lines using List.reverseRecOn with
  | nil => simp [told, numbers]
  | append_singleton lines line ih =>
    have hlines : (∃ l ∈ lines ++ [line], portOf? l = some n) ↔
        (∃ l ∈ lines, portOf? l = some n) ∨ portOf? line = some n := by
      simp [or_and_right, exists_or]
    rw [told_concat, numbers_append, List.mem_append, mem_numbers_added_iff, hlines, and_or_left,
      ← ih]
    constructor
    · rintro (h | ⟨hline, hn, -⟩)
      · exact Or.inl h
      · exact Or.inr ⟨hn, hline⟩
    · rintro (h | ⟨hn, hline⟩)
      · exact Or.inl h
      · exact or_iff_not_imp_left.2 fun hnew => ⟨hline, hn, hnew⟩

theorem nodup_numbers_told (lines : List (List Char)) : (numbers (told file lines)).Nodup := by
  induction lines using List.reverseRecOn with
  | nil => exact List.nodup_nil
  | append_singleton lines line ih =>
    rw [told_concat, numbers_append, List.nodup_append]
    refine ⟨ih, ?_, ?_⟩
    · rw [added]
      cases (portOf? line).filter _ <;> simp [numbers]
    · rintro n hn m hm rfl
      exact (mem_numbers_added_iff.1 hm).2.2 hn

/-- **Ports are told by the first lines that set them.** -/
theorem mem_told_iff {p : Port} :
    p ∈ told file lines ↔ p.number ≠ 0 ∧ ∃ before line after, lines = before ++ line :: after ∧
      portOf? line = some p.number ∧ (∀ l ∈ before, portOf? l ≠ some p.number) ∧
      p = portAt file line p.number := by
  induction lines using List.reverseRecOn with
  | nil => simp [told]
  | append_singleton lines line ih =>
    rw [told_concat, List.mem_append, ih, mem_added_iff]
    -- A port of the last line is new exactly when no line before sets it; else one of these told it.
    constructor
    · rintro (⟨hp, before, l, after, rfl, hset, hfirst, heq⟩ | ⟨hset, hp, hnew, heq⟩)
      · exact ⟨hp, before, l, after ++ [line], by simp, hset, hfirst, heq⟩
      · refine ⟨hp, lines, line, [], rfl, hset, fun l hl hl' => ?_, heq⟩
        exact hnew (mem_numbers_told_iff.2 ⟨hp, l, hl, hl'⟩)
    · rintro ⟨hp, before, l, after, hlines, hset, hfirst, heq⟩
      rcases List.eq_nil_or_concat after with rfl | ⟨after, l', rfl⟩
      · obtain ⟨rfl, hl⟩ := List.append_inj' hlines rfl
        obtain rfl : line = l := (List.cons.inj hl).1
        refine Or.inr ⟨hset, hp, fun hold => ?_, heq⟩
        obtain ⟨-, k, hk, hk'⟩ := mem_numbers_told_iff.1 hold
        exact hfirst k hk hk'
      · rw [List.concat_eq_append, ← List.cons_append, ← List.append_assoc] at hlines
        exact Or.inl ⟨hp, before, l, after, (List.append_inj' hlines rfl).1, hset, hfirst, heq⟩

/-- Behind ports that are followed by others, but for those known already, a line adds what it adds
behind the others alone, but for a port known already. -/
theorem added_append_filter (ps qs : List Port) :
    added file (ps ++ qs.filter fun q => q.number ∉ numbers ps) line =
      (added file qs line).filter fun p => p.number ∉ numbers ps := by
  have hnumbers (n : Nat) : n ∉ numbers (ps ++ qs.filter fun q => q.number ∉ numbers ps) ↔
      n ∉ numbers qs ∧ n ∉ numbers ps := by
    simp only [numbers, List.map_append, List.mem_append, List.mem_map, List.mem_filter,
      decide_eq_true_eq]
    grind
  rw [added, added]
  -- Either side adds the port of the line or nothing, so it is enough to compare when they do.
  cases portOf? line with
  | none => rfl
  | some n =>
    simp only [hnumbers, Option.filter_some, decide_eq_true_eq, ← and_assoc]
    by_cases hqs : n ≠ 0 ∧ n ∉ numbers qs
    · by_cases hps : n ∉ numbers ps
      · rw [if_pos ⟨hqs, hps⟩, if_pos hqs]
        simp [portAt, hps]
      · rw [if_neg fun h => hps h.2, if_pos hqs]
        simpa [portAt] using hps
    · rw [if_neg fun h => hqs h.1, if_neg hqs]
      rfl

/-- **Lines behind others add the ports that are not told yet.** -/
theorem told_append (as bs : List (List Char)) :
    told file (as ++ bs) = told file as ++
      (told file bs).filter fun p => p.number ∉ numbers (told file as) := by
  induction bs using List.reverseRecOn with
  | nil => simp [told]
  | append_singleton bs line ih =>
    rw [← List.append_assoc, told_concat, told_concat, ih, added_append_filter, List.filter_append,
      List.append_assoc]

/-! ### Texts one behind the other -/

/-- **The ports of a text are a union in order**: behind whole lines a text adds its own ports that
are not told yet. No port is told twice, each is one of 16 bits other than zero, and it is told, with
its directive, by the first line that sets it. -/
theorem ports_append (before text : String)
    (h : before = "" ∨ before.toList.getLast? = some '\n') (file : String) :
    ports (before ++ text) file = ports before file ++
        (ports text file).filter (fun p => p.number ∉ (ports before file).map (·.number)) ∧
      ((ports text file).map (·.number)).Nodup ∧
      (∀ p ∈ ports text file, 1 ≤ p.number ∧ p.number ≤ 65535) ∧
      ∀ p, p ∈ ports text file ↔ p.number ≠ 0 ∧ p.file = file ∧ ∃ earlier line later,
        lineChars text.toList = earlier ++ line :: later ∧ Sets line p.number ∧
        (∀ l ∈ earlier, ¬Sets l p.number) ∧ p.directive = String.ofList (trimChars line) := by
  refine ⟨?_, nodup_numbers_told _, fun p hp => ?_, fun p => ?_⟩
  · rw [ports, lineChars_append h]
    exact told_append _ _
  · obtain ⟨hp, -, line, -, -, hset, -, -⟩ := mem_told_iff.1 hp
    obtain ⟨-, directive, -, -, ⟨-, -, -, hlt⟩, -⟩ := portOf?_eq_some_iff.1 hset
    omega
  · rw [ports, ← told, mem_told_iff]
    simp only [portOf?_eq_some_iff, ne_eq]
    refine and_congr_right fun _ => ?_
    constructor
    · rintro ⟨earlier, line, later, hlines, hset, hfirst, heq⟩
      rw [heq]
      exact ⟨rfl, earlier, line, later, hlines, hset, hfirst, rfl⟩
    · rintro ⟨hfile, earlier, line, later, hlines, hset, hfirst, hdirective⟩
      refine ⟨earlier, line, later, hlines, hset, hfirst, ?_⟩
      rw [portAt, ← hfile, ← hdirective]

/-- Two lines that set one port. -/
def listenedTwice : String := "listen 80;\n  listen [::]:80;\n"

/-- Lines that set the same port, none and another one. -/
def threePorts : String := "Port 80\nhttp_port = 0\nPort 22"

theorem ports_append_listenedTwice :
    ports (listenedTwice ++ threePorts) "httpd.conf" =
      [⟨80, "httpd.conf", "listen 80;"⟩, ⟨22, "httpd.conf", "Port 22"⟩] :=
  (ports_append listenedTwice threePorts (Or.inr (by decide +kernel)) "httpd.conf").1.trans
    (by decide +kernel)

end FirmwareSurvey.Rootfs
