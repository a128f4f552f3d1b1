import CodeSurvey.Proofs.Json.Proper
import CodeSurvey.Proofs.Json.Scalar
import CodeSurvey.Proofs.Outcome

namespace CodeSurvey.Json

section Parts

variable {s : Separators} {α : Type} {part : PartReader α} {closing : Char}

theorem endsNumber_nil : EndsNumber [] := fun _ hc => absurd hc (by simp)

theorem endsNumber_comma {rest : List Char} : EndsNumber (',' :: rest) := by
  intro c hc
  obtain rfl := Option.some.inj hc
  decide

theorem not_blank_append {cs rest : List Char} (h : StartsWith Opens cs) :
    ∀ d ∈ (cs ++ rest).head?, Cursor.isBlank d = false := by
  obtain ⟨d, tail, rfl, hd⟩ := h
  intro e he
  obtain rfl := Option.some.inj he
  exact hd.not_blank

theorem intercalate_cons (hs : s.Plain) (t : String) (texts : List String) (hne : texts ≠ []) :
    ∃ blanks, (∀ b ∈ blanks, Cursor.isBlank b = true)
      ∧ (s.item.intercalate (t :: texts)).toList
        = t.toList ++ ',' :: (blanks ++ (s.item.intercalate texts).toList) := by
  obtain ⟨blanks, hitem, hb⟩ := hs.item
  refine ⟨blanks, hb, ?_⟩
  rw [String.intercalate_cons_of_ne_nil hne, String.toList_append, String.toList_append, hitem,
    List.append_assoc]
  rfl

theorem startsWith_intercalate (hs : s.Plain) {texts : List String} (hne : texts ≠ [])
    (h : ∀ t ∈ texts, StartsWith Opens t.toList) :
    StartsWith Opens (s.item.intercalate texts).toList := by
  obtain ⟨t, rest, rfl⟩ := List.exists_cons_of_ne_nil hne
  obtain ⟨d, cs, hcs, hd⟩ := h t List.mem_cons_self
  cases rest with
  | nil => exact ⟨d, cs, by rw [String.intercalate_singleton, hcs], hd⟩
  | cons u rest =>
      obtain ⟨blanks, -, hall⟩ := intercalate_cons hs t (u :: rest) (by simp)
      rw [hall, hcs]
      exact ⟨d, _, rfl, hd⟩

theorem readParts_error {c : Cursor} {e : ReadFault} (hv : part c = .error e) (fuel : Nat)
    (acc : List α) :
    readParts part closing (fuel + 1) acc c = .error e := by
  rw [readParts, hv]
  rfl

theorem readParts_last {v : α} {c next : Cursor} {rest : List Char} (hv : part c = .ok (v, next))
    (hn : next.rest = closing :: rest) (hb : Cursor.isBlank closing = false)
    (hclosing : closing ≠ ',') (fuel : Nat) (acc : List α) :
    readParts part closing (fuel + 1) acc c = .ok (acc.reverse ++ [v], next.advance 1) := by
  have hskip : next.skipBlanks = next := by
    refine Cursor.skipBlanks_eq fun d hd => ?_
    rw [hn] at hd
    obtain rfl := Option.some.inj hd
    exact hb
  rw [readParts, hv, Outcome.ok_bind]
  dsimp only
  rw [hskip, hn, ← List.reverse_cons]
  split
  · rename_i heq
    exact absurd (List.cons.inj heq).1 hclosing
  · rename_i heq
    obtain ⟨rfl, -⟩ := List.cons.inj heq
    exact if_pos rfl
  · rename_i heq
    exact absurd heq (by simp)

theorem readParts_next {v : α} {c next : Cursor} {blanks rest : List Char}
    (hv : part c = .ok (v, next)) (hn : next.rest = ',' :: (blanks ++ rest))
    (hb : ∀ b ∈ blanks, Cursor.isBlank b = true) (hr : ∀ d ∈ rest.head?, Cursor.isBlank d = false)
    (fuel : Nat) (acc : List α) :
    readParts part closing (fuel + 1) acc c
      = readParts part closing fuel (v :: acc) (next.advance (1 + blanks.length)) := by
  have hskip : next.skipBlanks = next := Cursor.skipBlanks_eq (by rw [hn]; simp [Cursor.isBlank])
  have hcomma : (next.advance 1).skipBlanks = next.advance (1 + blanks.length) := by
    rw [Cursor.skipBlanks_append (c := next.advance 1) _ hb hr (Cursor.advance_rest [','] hn),
      Cursor.advance_advance]
  rw [readParts, hv, Outcome.ok_bind]
  dsimp only
  rw [hskip, hn]
  show readParts part closing fuel (v :: acc) (next.advance 1).skipBlanks = _
  rw [hcomma]

theorem readParts_one {v : α} {t rest : List Char} {result : Except ReadFault Unit}
    (hv : Takes part t (result.map fun _ => v)) (hend : EndsNumber (closing :: rest))
    (hb : Cursor.isBlank closing = false) (hclosing : closing ≠ ',') (fuel : Nat) (acc : List α)
    {c : Cursor} (hc : c.rest = t ++ closing :: rest) : readParts part closing (fuel + 1) acc c
      = result.map fun _ => (acc.reverse ++ [v], c.advance (t.length + 1)) := by
  have hread := hv c (closing :: rest) hend hc
  cases result with
  | error e => exact readParts_error hread fuel acc
  | ok _ =>
      rw [readParts_last hread (Cursor.advance_rest _ hc) hb hclosing, Cursor.advance_advance]
      rfl

theorem readParts_more {v : α} {t blanks rest : List Char} {result : Except ReadFault Unit}
    (hv : Takes part t (result.map fun _ => v)) (hb : ∀ b ∈ blanks, Cursor.isBlank b = true)
    (hr : ∀ d ∈ rest.head?, Cursor.isBlank d = false) (fuel : Nat) (acc : List α) {c : Cursor}
    (hc : c.rest = t ++ ',' :: (blanks ++ rest)) : readParts part closing (fuel + 1) acc c
      = result >>= fun _ =>
        readParts part closing fuel (v :: acc) (c.advance (t.length + (1 + blanks.length))) := by
  have hread := hv c _ endsNumber_comma hc
  cases result with
  | error e => exact readParts_error hread fuel acc
  | ok _ =>
      rw [readParts_next hread (Cursor.advance_rest _ hc) hb hr, Cursor.advance_advance]
      rfl

theorem readParts_texts (hs : s.Plain) (hclosing : closing = ']' ∨ closing = '\x7d')
    {text : α → String} {check : α → Except ReadFault Unit} {items : List α} (hne : items ≠ [])
    (hopens : ∀ v ∈ items, StartsWith Opens (text v).toList)
    (h : ∀ v ∈ items, Takes part (text v).toList ((check v).map fun _ => v)) {fuel : Nat}
    (hf : items.length ≤ fuel) (acc : List α) {c : Cursor} {rest : List Char}
    (hc : c.rest = (s.item.intercalate (items.map text)).toList ++ closing :: rest) :
    readParts part closing fuel acc c = (forM items check).map fun _ =>
      (acc.reverse ++ items,
          c.advance ((s.item.intercalate (items.map text)).toList.length + 1)) := by
  have hend : EndsNumber (closing :: rest) := by
    intro d hd
    obtain rfl := Option.some.inj hd
    rcases hclosing with rfl | rfl <;> decide
  have hblank : Cursor.isBlank closing = false := by rcases hclosing with rfl | rfl <;> decide
  have hcomma : closing ≠ ',' := by rcases hclosing with rfl | rfl <;> decide
  -- One part a step, so the fuel has to cover the parts, not the characters.
  induction items generalizing fuel acc c with
  | nil => exact absurd rfl hne
  | cons v items ih =>
      obtain ⟨fuel, rfl⟩ : ∃ n, fuel = n + 1 := ⟨fuel - 1, by simp at hf; omega⟩
      have hv := h v List.mem_cons_self
      rw [List.forM_cons]
      cases items with
      | nil =>
          simp only [List.map_cons, List.map_nil, String.intercalate_singleton] at hc ⊢
          rw [readParts_one hv hend hblank hcomma fuel acc hc]
          cases check v <;> rfl
      | cons w items =>
          obtain ⟨blanks, hb, hall⟩ :=
            intercalate_cons hs (text v) ((w :: items).map text) (by simp)
          have hhead : StartsWith Opens (s.item.intercalate ((w :: items).map text)).toList := by
            refine startsWith_intercalate hs (by simp) fun t ht => ?_
            obtain ⟨u, hu, rfl⟩ := List.mem_map.1 ht
            exact hopens u (List.mem_cons_of_mem _ hu)
          rw [List.map_cons, hall] at hc ⊢
          generalize s.item.intercalate ((w :: items).map text) = texts at *
          have hc' :
              c.rest = (text v).toList ++ ',' :: (blanks ++ (texts.toList ++ closing :: rest)) := by
            rw [hc]
            simp
          have hrest : (c.advance ((text v).toList.length + (1 + blanks.length))).rest
              = texts.toList ++ closing :: rest := by
            have := Cursor.advance_rest ((text v).toList ++ ',' :: blanks)
              (show c.rest = _ ++ (texts.toList ++ closing :: rest) by rw [hc']; simp)
            rw [List.length_append, List.length_cons, Nat.add_comm blanks.length] at this
            exact this
          have hlen : (text v).toList.length + (1 + blanks.length) + (texts.toList.length + 1)
              = ((text v).toList ++ ',' :: (blanks ++ texts.toList)).length + 1 := by
            simp only [List.length_append, List.length_cons]
            omega
          rw [readParts_more hv hb (not_blank_append hhead) fuel acc hc',
            ih (by simp) (fun u hu => hopens u (List.mem_cons_of_mem _ hu))
              (fun u hu => h u (List.mem_cons_of_mem _ hu)) (by simpa using hf) (v :: acc) hrest,
            Cursor.advance_advance, hlen, List.reverse_cons, List.append_assoc]
          cases check v <;> rfl

end Parts

theorem takes_field {s : Separators} (hs : s.Plain) {value : ValueReader} (name : String) {v : Json}
    {result : Except ReadFault Json} (h : Takes value (textWith s v).toList result) :
    Takes (readField value) (quote name ++ s.name ++ textWith s v).toList
      (result.map (name, ·)) := by
  intro c rest hr hc
  obtain ⟨blanks, hname, hb⟩ := hs.name
  rw [String.toList_append, String.toList_append, hname] at hc ⊢
  rw [List.append_assoc, List.append_assoc] at hc
  have hstring := readString_quote name hc
  have hnext := Cursor.advance_rest _ hc
  have hskip := Cursor.skipBlanks_eq (c := c.advance (quote name).toList.length)
    (by rw [hnext]; simp [Cursor.isBlank])
  have hcolon : ((c.advance (quote name).toList.length).advance 1).skipBlanks
      = c.advance ((quote name).toList.length + (1 + blanks.length)) := by
    rw [Cursor.skipBlanks_append (c := (c.advance (quote name).toList.length).advance 1) _ hb
      (not_blank_append (startsWith_textWith s v)) (Cursor.advance_rest [':'] hnext),
      Cursor.advance_advance, Cursor.advance_advance]
  have hopen : ∃ cs, c.rest = '"' :: cs := by
    rw [hc, toList_quote]
    exact ⟨_, rfl⟩
  obtain ⟨cs, hopen⟩ := hopen
  have hreadName :
      readName c = .ok (name, c.advance ((quote name).toList.length + (1 + blanks.length))) := by
    simp only [readName, hopen, hstring, Except.bind, bind, hskip, hnext, hcolon]
    rfl
  have hvalue : (c.advance ((quote name).toList.length + (1 + blanks.length))).rest
      = (textWith s v).toList ++ rest := by
    have := Cursor.advance_rest (c := c.advance (quote name).toList.length) (':' :: blanks) hnext
    rw [Cursor.advance_advance, List.length_cons, Nat.add_comm blanks.length] at this
    exact this
  simp only [readField, hreadName, Except.bind, bind, h _ rest hr hvalue]
  cases result with
  | error e => rfl
  | ok w =>
      have hlen : (quote name).toList.length + (1 + blanks.length) + (textWith s v).toList.length
          = ((quote name).toList ++ ':' :: blanks ++ (textWith s v).toList).length := by
        simp only [List.length_append, List.length_cons]
        omega
      simp only [Except.map, Cursor.advance_advance, hlen]
      rfl

section Nested

variable {s : Separators} {maxDigits depth : Nat}

theorem length_le_intercalate (hs : s.Plain) {texts : List String}
    (h : ∀ t ∈ texts, StartsWith Opens t.toList) :
    texts.length ≤ (s.item.intercalate texts).toList.length := by
  induction texts with
  | nil => exact Nat.zero_le _
  | cons t texts ih =>
      obtain ⟨d, cs, hcs, -⟩ := h t List.mem_cons_self
      cases texts with
      | nil => simp [String.intercalate_singleton, hcs]
      | cons u texts =>
          obtain ⟨blanks, -, hall⟩ := intercalate_cons hs t (u :: texts) (by simp)
          have := ih fun t ht => h t (List.mem_cons_of_mem _ ht)
          rw [hall, hcs]
          simp only [List.length_append, List.length_cons] at this ⊢
          omega

theorem readParts_between (hs : s.Plain) {α : Type} {part : PartReader α} {closing : Char}
    (hclosing : closing = ']' ∨ closing = '\x7d') {text : α → String} {items : List α}
    (hne : items ≠ []) (hopens : ∀ v ∈ items, StartsWith Opens (text v).toList)
    (check : α → Except ReadFault Unit)
    (h : ∀ v ∈ items, Takes part (text v).toList ((check v).map fun _ => v)) {c : Cursor}
    {rest : List Char}
    (hc : c.rest = (s.item.intercalate (items.map text)).toList ++ closing :: rest) :
    (c.skipBlanks = c ∧ ∃ d cs, c.rest = d :: cs ∧ d ≠ closing)
    ∧ readParts part closing (c.rest.length + 1) [] c = (forM items check).map fun _ =>
      (items, c.advance ((s.item.intercalate (items.map text)).toList.length + 1)) := by
  have hall : ∀ t ∈ items.map text, StartsWith Opens t.toList := by
    intro t ht
    obtain ⟨v, hv, rfl⟩ := List.mem_map.1 ht
    exact hopens v hv
  have hfuel : items.length ≤ c.rest.length + 1 := by
    have := length_le_intercalate hs hall
    rw [List.length_map] at this
    rw [hc, List.length_append]
    omega
  have hstart := startsWith_intercalate hs (by simpa using hne) hall
  refine ⟨⟨Cursor.skipBlanks_eq (by rw [hc]; exact not_blank_append hstart), ?_⟩,
    readParts_texts hs hclosing hne hopens h hfuel [] hc⟩
  obtain ⟨d, cs, hcs, hd⟩ := hstart
  exact ⟨d, cs ++ closing :: rest, by rw [hc, hcs, List.cons_append], hd.ne hclosing⟩

theorem readValue_arr_nil {c : Cursor} {rest : List Char} (hc : c.rest = '[' :: ']' :: rest) :
    readValue maxDigits (depth + 1) c = .ok (arr [], c.advance 2) := by
  have hinner : (c.advance 1).rest = ']' :: rest := Cursor.advance_rest ['['] hc
  have hskip : (c.advance 1).skipBlanks = c.advance 1 :=
    Cursor.skipBlanks_eq (by rw [hinner]; simp [Cursor.isBlank])
  simp only [readValue, hc, hskip, hinner, Cursor.advance_advance]

theorem readValue_arr {c : Cursor} {cs tail : List Char} {d : Char} (hc : c.rest = '[' :: cs)
    (hskip : (c.advance 1).skipBlanks = c.advance 1) (hinner : (c.advance 1).rest = d :: tail)
    (hd : d ≠ ']') :
    readValue maxDigits (depth + 1) c
      = (readParts (readValue maxDigits depth) ']' ((c.advance 1).rest.length + 1) []
        (c.advance 1)).map
        fun parts => (arr parts.1, parts.2) := by
  simp only [readValue, hc, hskip, hinner]
  split
  · rename_i heq
    exact absurd (List.cons.inj heq).1 hd
  · cases readParts (readValue maxDigits depth) ']' ((d :: tail).length + 1) [] (c.advance 1) <;>
      rfl

theorem readValue_obj_nil {c : Cursor} {rest : List Char} (hc : c.rest = '\x7b' :: '\x7d' :: rest) :
    readValue maxDigits (depth + 1) c = .ok (obj [], c.advance 2) := by
  have hinner : (c.advance 1).rest = '\x7d' :: rest := Cursor.advance_rest ['\x7b'] hc
  have hskip : (c.advance 1).skipBlanks = c.advance 1 :=
    Cursor.skipBlanks_eq (by rw [hinner]; simp [Cursor.isBlank])
  simp only [readValue, hc, hskip, hinner, Cursor.advance_advance]

theorem readValue_obj {c : Cursor} {cs tail : List Char} {d : Char} (hc : c.rest = '\x7b' :: cs)
    (hskip : (c.advance 1).skipBlanks = c.advance 1) (hinner : (c.advance 1).rest = d :: tail)
    (hd : d ≠ '\x7d') :
    readValue maxDigits (depth + 1) c
      = (readParts (readField (readValue maxDigits depth)) '\x7d' ((c.advance 1).rest.length + 1) []
        (c.advance 1)).map fun parts => (obj (Fields.putAll [] parts.1), parts.2) := by
  simp only [readValue, hc, hskip, hinner]
  split
  · rename_i heq
    exact absurd (List.cons.inj heq).1 hd
  · cases readParts (readField (readValue maxDigits depth)) '\x7d' ((d :: tail).length + 1) []
      (c.advance 1) <;> rfl

theorem takesClosed_arr (hs : s.Plain) {items : List Json}
    (h : ∀ v ∈ items, Takes (readValue maxDigits depth) (textWith s v).toList
      ((limits maxDigits depth v).map fun _ => v)) :
    TakesClosed (readValue maxDigits (depth + 1)) (textWith s (arr items)).toList
      ((limits maxDigits (depth + 1) (arr items)).map fun _ => arr items) := by
  intro c rest hc
  rw [textWith, textsWith_eq, String.toList_append, String.toList_append] at hc ⊢
  have hopen :
      c.rest = '[' :: ((s.item.intercalate (items.map (textWith s))).toList ++ ']' :: rest) := by
    rw [hc, List.append_assoc, List.append_assoc]
    rfl
  have hinner : (c.advance 1).rest = (s.item.intercalate (items.map (textWith s))).toList
      ++ ']' :: rest :=
    Cursor.advance_rest ['['] hopen
  by_cases hne : items = []
  · subst hne
    rw [readValue_arr_nil hopen]
    rfl
  · obtain ⟨⟨hskip, d, tail, hd, hne'⟩, hparts⟩ := readParts_between hs (.inl rfl) hne
      (fun v _ => startsWith_textWith s v) _ h hinner
    have hlen : 1 + ((s.item.intercalate (items.map (textWith s))).toList.length + 1)
        = ("[".toList ++ (s.item.intercalate (items.map (textWith s))).toList
          ++ "]".toList).length := by
      simp [Nat.add_comm]
    rw [readValue_arr hopen hskip hd hne', hparts, ← hlen, limits]
    cases forM items (limits maxDigits depth) with
    | error e => rfl
    | ok _ =>
        simp only [Except.map, Cursor.advance_advance]

theorem takesClosed_obj (hs : s.Plain) {fields : Fields} (hnames : fields.names.Nodup)
    (h : ∀ field ∈ fields, Takes (readValue maxDigits depth) (textWith s field.2).toList
      ((limits maxDigits depth field.2).map fun _ => field.2)) :
    TakesClosed (readValue maxDigits (depth + 1)) (textWith s (obj fields)).toList
      ((limits maxDigits (depth + 1) (obj fields)).map fun _ => obj fields) := by
  intro c rest hc
  rw [textWith, fieldTextsWith_eq, String.toList_append, String.toList_append] at hc ⊢
  generalize htext : (fun field : String × Json => quote field.1 ++ s.name ++ textWith s field.2)
    = text at hc ⊢
  have hopen :
      c.rest = '\x7b' :: ((s.item.intercalate (fields.map text)).toList ++ '\x7d' :: rest) := by
    rw [hc, List.append_assoc, List.append_assoc]
    rfl
  have hinner : (c.advance 1).rest = (s.item.intercalate (fields.map text)).toList
      ++ '\x7d' :: rest :=
    Cursor.advance_rest ['\x7b'] hopen
  by_cases hne : fields = []
  · subst hne
    rw [readValue_obj_nil hopen]
    rfl
  · have hopens : ∀ field ∈ fields, StartsWith Opens (text field).toList := by
      intro field _
      rw [← htext]
      simp only [String.toList_append, toList_quote]
      exact ⟨'"', _, rfl, rfl⟩
    have htakes :
        ∀ field ∈ fields, Takes (readField (readValue maxDigits depth)) (text field).toList
        ((limits maxDigits depth field.2).map fun _ => field) := by
      intro field hfield
      have hread := takes_field hs field.1 (h field hfield)
      rw [← htext]
      cases hlimits : limits maxDigits depth field.2 <;> rw [hlimits] at hread <;> exact hread
    obtain ⟨⟨hskip, d, tail, hd, hne'⟩, hparts⟩ := readParts_between hs (.inr rfl) hne hopens
      (fun field => limits maxDigits depth field.2) htakes hinner
    have hlen : 1 + ((s.item.intercalate (fields.map text)).toList.length + 1)
        = ("\x7b".toList ++ (s.item.intercalate (fields.map text)).toList
          ++ "\x7d".toList).length := by
      simp [Nat.add_comm]
    have hput : Fields.putAll [] fields = fields := Fields.putAll_of_nodup [] hnames
    rw [readValue_obj hopen hskip hd hne', hparts, ← hlen, limits]
    cases forM fields (fun field => limits maxDigits depth field.2) with
    | error e => rfl
    | ok _ =>
        simp only [Except.map, Cursor.advance_advance, hput]

theorem takes_textWith (maxDigits depth : Nat) (hs : s.Plain) {v : Json} (hv : v.Proper) :
    Takes (readValue maxDigits depth) (textWith s v).toList
      ((limits maxDigits depth v).map fun _ => v) := by
  induction depth generalizing v with
  | zero =>
      intro c rest _ _
      rfl
  | succ depth ih =>
      cases hv with
      | null =>
          rw [textWith]
          exact takes_null maxDigits depth
      | bool b =>
          cases b with
          | false =>
              rw [textWith]
              exact takes_false maxDigits depth
          | true =>
              rw [textWith]
              exact takes_true maxDigits depth
      | int n =>
          have h := takes_int maxDigits depth n
          rw [textWith, limits]
          split
          · rename_i hlong
            rwa [if_pos hlong] at h
          · rename_i hlong
            rwa [if_neg hlong] at h
      | real d =>
          rw [textWith]
          exact takes_realText maxDigits depth d
      | str t =>
          rw [textWith]
          exact (takesClosed_quote maxDigits depth t).takes
      | arr parts => exact (takesClosed_arr hs fun v hmem => ih (parts v hmem)).takes
      | obj names parts =>
          exact (takesClosed_obj hs names fun field hmem => ih (parts field hmem)).takes

end Nested

end CodeSurvey.Json
