import AdnBridge.Lib.Bits
import AdnBridge.PeerEl.StationList

namespace AdnBridge
set_option autoImplicit true

structure TextLine where
  chars : List UInt8
  crlf : Bool
  clean : ∀ c ∈ chars, c ≠ chLf ∧ c ≠ 0

def lineEnd (crlf : Bool) : List UInt8 := if crlf then [chCr, chLf] else [chLf]

def TextLine.text (l : TextLine) : List UInt8 := l.chars ++ lineEnd l.crlf

structure StationRecord where
  call : TextLine
  qth : TextLine
  nodeId : TextLine
  ip : TextLine

def StationRecord.lines (r : StationRecord) : List TextLine := [r.call, r.qth, r.nodeId, r.ip]

/-- A station list as a server sends it; behind the end marker there may be any text. -/
structure StationList where
  intro : List TextLine
  header : TextLine
  count : TextLine
  records : List StationRecord
  tail : Option (Bool × List UInt8)

namespace StationList

def lines (L : StationList) : List TextLine :=
  L.intro ++ L.header :: L.count :: L.records.flatMap StationRecord.lines

def tailText (L : StationList) : List UInt8 :=
  match L.tail with
  | some (crlf, rest) => endMarker ++ lineEnd crlf ++ rest
  | none => []

def text (L : StationList) : List UInt8 := L.lines.flatMap TextLine.text ++ L.tailText

/-- The grammar of a list, where `read` gives what counts of a line. -/
structure WellFormed (read : List UInt8 → List UInt8) (L : StationList) : Prop where
  intro : ∀ l ∈ L.intro, l.chars.take 3 ≠ listMarker
  header : L.header.chars.take 3 = listMarker
  calls : ∀ r ∈ L.records, r.call.chars.length ≤ 31
  records : ∀ r ∈ L.records, ∀ l ∈ r.lines, read l.chars ≠ endMarker

/-- The first record of the call that is wanted. -/
def find (read : List UInt8 → List UInt8) (want : List UInt8) (L : StationList) :
    Option StationRecord :=
  L.records.find? fun r => (read r.call.chars).map toUpper == want

def lookup (read : List UInt8 → List UInt8) (want : List UInt8) (scrambled : Bool)
    (L : StationList) : Option Nat :=
  (L.find read want).bind fun r => elDirIpAton ((read r.ip.chars).take 95) scrambled

end StationList

/-- The parser finds what the grammar says, and an address that is written out is the same
with and without descrambling. -/
def FindsStation (read : List UInt8 → List UInt8) (L : StationList) (want : List UInt8)
    (scrambled : Bool) : Prop :=
  L.WellFormed read → elParseStationListText L.text want scrambled = L.lookup read want scrambled ∧
    ∀ r a b c d, L.find read want = some r → read r.ip.chars = quadText a b c d →
      elParseStationListText L.text want scrambled = some (quadAddress a b c d)

/-- What the parser keeps of a line. -/
def stationField (chars : List UInt8) : List UInt8 := trimCr (chars.take 255)

theorem trimCr_isPrefix (s : List UInt8) : trimCr s <+: s := List.rdropWhile_prefix _ _

theorem stationField_isPrefix (chars : List UInt8) : stationField chars <+: chars :=
  (trimCr_isPrefix _).trans (List.take_prefix _ _)

/-- The carriage return of a line end is trimmed, unless the line was cut before it. -/
theorem trimCr_kept (chars : List UInt8) (crlf : Bool) :
    trimCr ((chars ++ if crlf then [chCr] else []).take 255) = stationField chars := by
  cases crlf with
  | false => rw [if_neg Bool.false_ne_true, List.append_nil]; rfl
  | true =>
    rw [if_pos rfl, stationField]
    by_cases h : chars.length < 255
    · rw [List.take_of_length_le (by rw [List.length_append]; exact h),
        List.take_of_length_le (Nat.le_of_lt h)]
      exact List.rdropWhile_concat_pos _ _ _ rfl
    · rw [List.take_append_of_le_length (Nat.le_of_not_lt h)]

theorem trimCr_marker (s : List UInt8) : trimCr (listMarker ++ s) = listMarker ++ trimCr s := by
  induction s using List.reverseRecOn with
  | nil => rfl
  | append_singleton s c ih =>
    rw [← List.append_assoc, trimCr, trimCr, List.rdropWhile_concat, List.rdropWhile_concat]
    split
    · exact ih
    · exact List.append_assoc _ _ _

theorem stationField_marker (chars : List UInt8) :
    (stationField chars).take 3 = listMarker ↔ chars.take 3 = listMarker := by
  constructor
  · intro h
    obtain ⟨w, hw⟩ := stationField_isPrefix chars
    have hlen : 3 ≤ (stationField chars).length := by
      have := congrArg List.length h
      rw [List.length_take] at this
      change min 3 _ = 3 at this
      omega
    rw [← hw, List.take_append_of_le_length hlen, h]
  · intro h
    have hchars : chars.take 255 = listMarker ++ (chars.take 255).drop 3 := by
      have htake : (chars.take 255).take 3 = listMarker := by
        rw [List.take_take]
        exact h
      rw [← htake, List.take_append_drop]
    rw [stationField, hchars, trimCr_marker]
    rfl

theorem take_take_append (l m : List α) (n : Nat) : (l.take n ++ m).take n = (l ++ m).take n := by
  by_cases h : l.length ≤ n
  · rw [List.take_of_length_le h]
  · have hlen : (l.take n).length = n := List.length_take_of_le (by omega)
    rw [List.take_append_of_le_length (Nat.le_of_eq hlen.symm), List.take_take, Nat.min_self,
      List.take_append_of_le_length (by omega)]

namespace StationScan

variable {want : List UInt8} {scrambled : Bool}

/-- The characters of a line go into the array until it is full. -/
theorem parse_chars (hcs : ∀ c ∈ cs, c ≠ chLf) (rest : List UInt8) {s : StationScan}
    (hs : s.line.length ≤ 255) : parse want scrambled (cs ++ rest) s =
      parse want scrambled rest { s with line := (s.line ++ cs).take 255 } := by
  induction cs generalizing s with
  | nil => rw [List.nil_append, List.append_nil, List.take_of_length_le hs]
  | cons c cs ih =>
    have hchar : s.char c = { s with line := (s.line ++ [c]).take 255 } := by
      rw [char]
      split
      next hroom =>
        rw [List.take_of_length_le (by rw [List.length_append]; exact Nat.le_of_lt_succ hroom)]
      next hfull => rw [List.take_append_of_le_length (by omega), List.take_of_length_le hs]
    have hlen : ((s.line ++ [c]).take 255).length ≤ 255 := List.length_take_le _ _
    rw [List.cons_append, parse, if_neg (hcs c List.mem_cons_self), hchar,
      ih (fun c hc => hcs c (List.mem_cons_of_mem _ hc)) hlen]
    change parse want scrambled rest { s with line := _ } = _
    rw [take_take_append, List.append_assoc]
    rfl

/-- What a whole line does. -/
theorem parse_line (chars : List UInt8) (hchars : ∀ c ∈ chars, c ≠ chLf) (crlf : Bool)
    (rest : List UInt8) {s : StationScan} (hs : s.line = []) :
    parse want scrambled (chars ++ lineEnd crlf ++ rest) s =
      match s.takeLine want scrambled (stationField chars) with
      | .error r => r
      | .ok s => parse want scrambled rest s := by
  have hend : chars ++ lineEnd crlf ++ rest =
      (chars ++ if crlf then [chCr] else []) ++ chLf :: rest := by
    cases crlf with
    | false => rw [if_neg Bool.false_ne_true, List.append_nil, List.append_assoc]; rfl
    | true => rw [if_pos rfl, List.append_assoc, List.append_assoc]; rfl
  have hkept : ∀ c ∈ chars ++ (if crlf then [chCr] else []), c ≠ chLf := by
    intro c hc
    rcases List.mem_append.1 hc with hc | hc
    · exact hchars c hc
    · cases crlf with
      | false => cases hc
      | true => exact List.mem_singleton.1 hc ▸ by decide
  rw [hend, parse_chars hkept _ (by rw [hs]; exact Nat.zero_le _), parse, if_pos rfl, endLine,
    hs, List.nil_append, trimCr_kept]
  rfl

theorem parse_textLine (l : TextLine) (rest : List UInt8) {s : StationScan} (hs : s.line = []) :
    parse want scrambled (l.text ++ rest) s =
      match s.takeLine want scrambled (stationField l.chars) with
      | .error r => r
      | .ok s => parse want scrambled rest s :=
  parse_line l.chars (fun c hc => (l.clean c hc).1) l.crlf rest hs

/-- Lines before the header are passed over. -/
theorem parse_intro {ls : List TextLine} (h : ∀ l ∈ ls, l.chars.take 3 ≠ listMarker)
    (rest : List UInt8) : parse want scrambled (ls.flatMap TextLine.text ++ rest) start =
      parse want scrambled rest start := by
  induction ls with
  | nil => rfl
  | cons l ls ih =>
    have hl : ¬(stationField l.chars).take 3 = listMarker := fun hl =>
      h l List.mem_cons_self ((stationField_marker _).1 hl)
    have hturn : start.takeLine want scrambled (stationField l.chars) = .ok start := by
      rw [takeLine]
      exact congrArg Except.ok (congrArg (StationScan.mk [] []) (if_neg hl))
    rw [List.flatMap_cons, List.append_assoc, parse_textLine l _ rfl, hturn]
    exact ih fun l hl => h l (List.mem_cons_of_mem _ hl)

/-- The header and the count lead to the first record. -/
theorem parse_header (header count : TextLine) (h : header.chars.take 3 = listMarker)
    (rest : List UInt8) : parse want scrambled (header.text ++ (count.text ++ rest)) start =
      parse want scrambled rest ⟨[], [], .call⟩ := by
  have hturn : start.takeLine want scrambled (stationField header.chars) =
      .ok ⟨[], [], .count⟩ := by
    rw [takeLine]
    exact congrArg Except.ok (congrArg (StationScan.mk [] [])
      (if_pos ((stationField_marker _).2 h)))
  rw [parse_textLine header _ rfl, hturn]
  exact parse_textLine count _ rfl

/-- The four lines of a record. -/
theorem parse_record {r : StationRecord} (hcall : r.call.chars.length ≤ 31)
    (hmarks : ∀ l ∈ r.lines, stationField l.chars ≠ endMarker) (call rest : List UInt8) :
    parse want scrambled (r.lines.flatMap TextLine.text ++ rest) ⟨[], call, .call⟩ =
      if (stationField r.call.chars).map toUpper = want then
        elDirIpAton ((stationField r.ip.chars).take 95) scrambled
      else parse want scrambled rest ⟨[], (stationField r.call.chars).map toUpper, .call⟩ := by
  have hupper : upperCopy 32 (stationField r.call.chars) =
      (stationField r.call.chars).map toUpper := by
    have hlen := (stationField_isPrefix r.call.chars).length_le
    rw [upperCopy, List.take_of_length_le (by omega)]
  have hlines : r.lines.flatMap TextLine.text ++ rest =
      r.call.text ++ (r.qth.text ++ (r.nodeId.text ++ (r.ip.text ++ rest))) := by
    simp only [StationRecord.lines, List.flatMap_cons, List.flatMap_nil, List.append_nil,
      List.append_assoc]
  have h1 := hmarks r.call (by simp [StationRecord.lines])
  have h2 := hmarks r.qth (by simp [StationRecord.lines])
  have h3 := hmarks r.nodeId (by simp [StationRecord.lines])
  have h4 := hmarks r.ip (by simp [StationRecord.lines])
  rw [hlines, parse_textLine r.call _ rfl]
  simp only [takeLine]
  rw [if_neg h1]
  simp only
  rw [parse_textLine r.qth _ rfl]
  simp only [takeLine]
  rw [if_neg h2]
  simp only
  rw [parse_textLine r.nodeId _ rfl]
  simp only [takeLine]
  rw [if_neg h3]
  simp only
  rw [parse_textLine r.ip _ rfl]
  simp only [takeLine]
  rw [if_neg h4, hupper]
  by_cases hw : (stationField r.call.chars).map toUpper = want
  · rw [if_pos hw, if_pos hw]
  · rw [if_neg hw, if_neg hw]

/-- Behind the records nothing is found. -/
theorem parse_tail (L : StationList) (call : List UInt8) :
    parse want scrambled (cString L.tailText) ⟨[], call, .call⟩ = none := by
  rw [StationList.tailText]
  split
  next crlf rest _ =>
    have hstring : cString (endMarker ++ lineEnd crlf ++ rest) =
        endMarker ++ lineEnd crlf ++ cString rest := by
      cases crlf with
      | false => rfl
      | true => rfl
    rw [hstring, parse_line endMarker (by decide +kernel) crlf _ rfl]
    rfl
  next => rfl

theorem parse_records {rs : List StationRecord} (hcalls : ∀ r ∈ rs, r.call.chars.length ≤ 31)
    (hmarks : ∀ r ∈ rs, ∀ l ∈ r.lines, stationField l.chars ≠ endMarker)
    (htail : ∀ call, parse want scrambled rest ⟨[], call, .call⟩ = none) (call : List UInt8) :
    parse want scrambled ((rs.flatMap StationRecord.lines).flatMap TextLine.text ++ rest)
        ⟨[], call, .call⟩ =
      (rs.find? fun r => (stationField r.call.chars).map toUpper == want).bind fun r =>
        elDirIpAton ((stationField r.ip.chars).take 95) scrambled := by
  induction rs generalizing call with
  | nil => exact htail call
  | cons r rs ih =>
    rw [List.flatMap_cons, List.flatMap_append, List.append_assoc,
      parse_record (hcalls r List.mem_cons_self) (hmarks r List.mem_cons_self), List.find?_cons]
    split
    next hw => rw [beq_iff_eq.2 hw]; rfl
    next hw =>
      rw [beq_false_of_ne hw]
      exact ih (fun r hr => hcalls r (List.mem_cons_of_mem _ hr))
        (fun r hr => hmarks r (List.mem_cons_of_mem _ hr)) _

end StationScan

theorem cString_append {s : List UInt8} (hs : ∀ c ∈ s, c ≠ 0) (t : List UInt8) :
    cString (s ++ t) = s ++ cString t :=
  List.takeWhile_append_of_pos fun c hc => bne_iff_ne.2 (hs c hc)

theorem TextLine.text_ne_zero (l : TextLine) : ∀ c ∈ l.text, c ≠ 0 := by
  intro c hc
  rcases List.mem_append.1 hc with hc | hc
  · exact (l.clean c hc).2
  · have hall : ∀ crlf, ∀ c ∈ lineEnd crlf, c ≠ 0 := by decide +kernel
    exact hall _ c hc

theorem StationList.cString_text (L : StationList) :
    cString L.text = L.lines.flatMap TextLine.text ++ cString L.tailText :=
  cString_append (fun c hc => by
    obtain ⟨l, -, hl⟩ := List.mem_flatMap.1 hc
    exact l.text_ne_zero c hl) _

theorem elParseStationListText_eq {L : StationList} (h : L.WellFormed stationField)
    (want : List UInt8) (scrambled : Bool) :
    elParseStationListText L.text want scrambled = L.lookup stationField want scrambled := by
  have hlines : L.lines.flatMap TextLine.text ++ cString L.tailText =
      L.intro.flatMap TextLine.text ++ (L.header.text ++ (L.count.text ++
        ((L.records.flatMap StationRecord.lines).flatMap TextLine.text ++
          cString L.tailText))) := by
    simp only [StationList.lines, List.flatMap_append, List.flatMap_cons, List.append_assoc]
  rw [elParseStationListText, L.cString_text, hlines, StationScan.parse_intro h.intro,
    StationScan.parse_header _ _ h.header]
  exact StationScan.parse_records h.calls h.records (StationScan.parse_tail L) _

/-- A descrambled digit at the start is no digit, so that a plain address is not taken for a
scrambled one. -/
theorem elDescrambleIp_head {raw : List UInt8} (h : isDigitOf 10 (raw.headD 0) = true)
    (hlen : 3 ≤ raw.length) : isDigitOf 10 ((elDescrambleIp raw).headD 0) = false := by
  have hall : ∀ c : UInt8, isDigitOf 10 c = true →
      isDigitOf 10 (descrambleDigit descrambleSub2 0x3D
        (descrambleDigit descrambleSub1 0x7D (c - 0x39))) = false :=
    forall_byte (by decide +kernel)
  match raw, hlen with
  | c :: d :: e :: io, _ =>
    have hc := hall c h
    rw [elDescrambleIp, descrambleShift, List.map_cons, List.map_cons, cString,
      List.takeWhile_cons]
    split
    · exact hc
    · rfl

theorem looksLikeIpv4_quadText (a b c d : Fin 256) : looksLikeIpv4 (quadText a b c d) = true := by
  have hd := scanInt_byteText d Stops.nil
  rw [List.append_nil] at hd
  rw [looksLikeIpv4, quadText, scanInt_byteText a (Stops.dot _)]
  simp only [scanInt_byteText b (Stops.dot _), scanInt_byteText c (Stops.dot _), hd]
  rfl

theorem byteText_length : ∀ n : Fin 256, 1 ≤ (byteText n).length ∧ (byteText n).length ≤ 3 := by
  decide +kernel

theorem quadText_length (a b c d : Fin 256) :
    7 ≤ (quadText a b c d).length ∧ (quadText a b c d).length ≤ 15 := by
  have ha := byteText_length a
  have hb := byteText_length b
  have hc := byteText_length c
  have hd := byteText_length d
  simp only [quadText, List.length_append, List.length_cons]
  omega

theorem elDirIpAton_quadText (a b c d : Fin 256) (scrambled : Bool) :
    elDirIpAton (quadText a b c d) scrambled = some (quadAddress a b c d) := by
  have hlen := quadText_length a b c d
  have hhead : isDigitOf 10 ((quadText a b c d).headD 0) = true := by
    obtain ⟨hne, hdigit, -⟩ := byteText_head a
    rw [quadText, headD_append hne, hdigit]
  rw [elDirIpAton, looksLikeIpv4_quadText, inetAton_quadText, if_pos rfl]
  cases scrambled with
  | false => rfl
  | true =>
    rw [List.take_of_length_le (by omega), inetAton_none (elDescrambleIp_head hhead (by omega))]
    rfl

/-- The parser finds what the grammar says of the trimmed lines. -/
theorem findsStation_trimmed (L : StationList) (want : List UInt8) (scrambled : Bool) :
    FindsStation stationField L want scrambled := by
  intro h
  refine ⟨elParseStationListText_eq h want scrambled, fun r a b c d hr hip => ?_⟩
  have hlen := quadText_length a b c d
  rw [elParseStationListText_eq h, StationList.lookup, hr, Option.bind_some, hip,
    List.take_of_length_le (by omega), elDirIpAton_quadText]

/-- Two stations, the second one with a blank behind its call. -/
def twoStations : StationList where
  intro := [⟨[0x48, 0x69], true, by decide +kernel⟩]
  header := ⟨listMarker, true, by decide +kernel⟩
  count := ⟨[0x32], true, by decide +kernel⟩
  records := [⟨⟨[0x41], true, by decide +kernel⟩, ⟨[], true, by decide +kernel⟩,
      ⟨[0x37], true, by decide +kernel⟩, ⟨quadText 1 2 3 4, true, by decide +kernel⟩⟩,
    ⟨⟨[0x62, chSpace], false, by decide +kernel⟩, ⟨[], false, by decide +kernel⟩,
      ⟨[0x38], false, by decide +kernel⟩, ⟨quadText 5 6 7 8, false, by decide +kernel⟩⟩]
  tail := some (true, [0x41])

theorem findsStation_trimmed_sample :
    elParseStationListText twoStations.text [0x42] true = some (quadAddress 5 6 7 8) := by
  have hwf : twoStations.WellFormed stationField :=
    ⟨by decide +kernel, by decide +kernel, by decide +kernel, by decide +kernel⟩
  obtain ⟨-, hquad⟩ := findsStation_trimmed twoStations [0x42] true hwf
  exact hquad ⟨⟨[0x62, chSpace], false, by decide +kernel⟩, ⟨[], false, by decide +kernel⟩,
    ⟨[0x38], false, by decide +kernel⟩, ⟨quadText 5 6 7 8, false, by decide +kernel⟩⟩
    5 6 7 8 rfl (by decide +kernel)

/-- A list with the qth `"+++ "` in its only record. -/
def blankMarked : StationList where
  intro := []
  header := ⟨listMarker, false, by decide +kernel⟩
  count := ⟨[0x31], false, by decide +kernel⟩
  records := [⟨⟨[0x41], false, by decide +kernel⟩,
    ⟨endMarker ++ [chSpace], false, by decide +kernel⟩, ⟨[0x37], false, by decide +kernel⟩,
    ⟨quadText 1 2 3 4, false, by decide +kernel⟩⟩]
  tail := none

/-- A line is compared with the end marker without the blanks behind it. -/
theorem not_findsStation : ¬FindsStation id blankMarked [0x41] false := by
  intro h
  have hwf : blankMarked.WellFormed id :=
    ⟨by decide +kernel, by decide +kernel, by decide +kernel, by decide +kernel⟩
  have hlook := (h hwf).1
  revert hlook
  decide +kernel

end AdnBridge
