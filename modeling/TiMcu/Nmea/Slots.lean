import TiMcu.Lib.FieldLog
import TiMcu.Nmea.Sentences

/-!
# The variables that the parsers of the sentences fill

Each field of a parser gets the variable that it fills as its label.  A field changes no other variable of the record
(`zda_keeps` and the theorems like it), so that the log of a walk tells for every variable what it was converted from.
-/

namespace TiMcu.Nmea

open FieldWalk (Field)

/-- The variables. -/
inductive Slot
  | time | date | mday | mon | year | ltzh | ltzn
  | latitude | latDir | longitude | lonDir
  | quality | nbSat | hdop | height | heightUnit | geoidSeparation | geoidUnit
  | numMsg | msgNum | numSv | svid (i : Nat) | elv (i : Nat) | az (i : Nat) | cno (i : Nat) | signalId
  | cogt | cogtUnit | cogm | cogmUnit | sogn | sognUnit | sogk | sogkUnit
  | opMode | navMode | pdop | vdop | systemId
  | status | dataValid | speedKnots | trueCourse | mv | mvEw | posMode | navStatus
  | msgId
  deriving DecidableEq, Repr

/-- Fields with the variables that they fill. -/
abbrev Labelled (R : Type) := List (Option Slot × Field UInt8 (Fill R))

variable {R A B : Type} (c : Conversions)

/-! ### The labels -/

def zdaLabelled : Labelled Zda :=
  ([.time, .mday, .mon, .year, .ltzh, .ltzn].map some).zip (zdaFields c)

def ggaLabelled : Labelled Gga :=
  ([.time, .latitude, .latDir, .longitude, .lonDir, .quality, .nbSat, .hdop, .height, .heightUnit, .geoidSeparation,
    .geoidUnit].map some).zip (ggaFields c)

def gsvHeadLabelled : Labelled Gsv := ([.numMsg, .msgNum, .numSv].map some).zip (gsvHead c)

def gsvSatLabelled (i : Nat) : Labelled Gsv := ([.svid i, .elv i, .az i, .cno i].map some).zip (gsvSat c i)

def gsvTailLabelled : Labelled Gsv := [some .signalId].zip (gsvTail c)

def vtgLabelled : Labelled Vtg :=
  ([.cogt, .cogtUnit, .cogm, .cogmUnit, .sogn, .sognUnit, .sogk, .sogkUnit, .posMode].map some).zip (vtgFields c)

/-- Twelve fields are skipped. -/
def gsaLabelled : Labelled Gsa :=
  (([.opMode, .navMode] : List Slot).map some ++ List.replicate 12 none ++
    ([.pdop, .hdop, .vdop, .systemId] : List Slot).map some).zip (gsaFields c)

def gllLabelled (nmeaMsg : List UInt8) : Labelled Gll :=
  ([.latitude, .latDir, .longitude, .lonDir, .time, .status, .posMode].map some).zip (gllFields c nmeaMsg)

def pbuxLabelled : Labelled Pbux := ([.msgId, .time].map some).zip (pbuxFields c)

def rmcLabelled : Labelled Rmc :=
  ([.time, .dataValid, .latitude, .latDir, .longitude, .lonDir, .speedKnots, .trueCourse, .date, .mv, .mvEw, .posMode,
    .navStatus].map some).zip (rmcFields c)

/-! ### A field changes its variable only -/

/-- What is left of the data, once cleared, does not change. -/
def Keeps (clear : R → B) (act : List UInt8 → Fill R → Fill R) : Prop :=
  ∀ text v, clear (act text v).data = clear v.data

section Keeps

variable {clear : R → B} {convert : List UInt8 → Nat → A → Bool × A} {digits : Nat} {get : R → A} {set : A → R → R}
  {count : UInt8}

private theorem keeps_number (h : ∀ x r, clear (set x r) = clear r) :
    Keeps clear (number convert digits get set count) :=
  fun text v => h (convert text digits (get v.data)).2 v.data

private theorem keeps_strictNumber (h : ∀ x r, clear (set x r) = clear r) :
    Keeps clear (strictNumber convert digits get set) :=
  fun text v => h (convert text digits (get v.data)).2 v.data

private theorem keeps_letter {set : UInt8 → R → R} (h : ∀ x r, clear (set x r) = clear r) : Keeps clear (letter set) :=
  fun text v => h (text.headD 0) v.data

theorem keeps_letterUnlessComma {set : UInt8 → R → R} (h : ∀ x r, clear (set x r) = clear r) :
    Keeps clear (letterUnlessComma set count) := by
  intro text v
  unfold letterUnlessComma
  split
  · exact h (text.headD 0) v.data
  · rfl

private theorem keeps_sixDigits {parse : UInt32 → Calendar.Tm → Bool × Calendar.Tm} {get : R → Calendar.Tm}
    {set : Calendar.Tm → R → R} (h : ∀ x r, clear (set x r) = clear r) : Keeps clear (sixDigits c parse get set) := by
  intro text v
  unfold sixDigits
  dsimp only
  split
  · exact h _ v.data
  · rfl

private theorem keeps_belowSize {nmeaMsg : List UInt8} {act : List UInt8 → Fill R → Fill R} (h : Keeps clear act) :
    Keeps clear (belowSize nmeaMsg act) := by
  intro text v
  unfold belowSize
  dsimp only
  split
  · exact h text v
  · rfl

end Keeps

/-- Every field changes the variable of its label only, and one without a label changes nothing. -/
def LabelsKept (clear : Slot → R → R) (fields : Labelled R) : Prop :=
  ∀ x ∈ fields, Keeps (fun r => x.1.elim r (clear · r)) x.2.act

section LabelsKept

variable {clear : Slot → R → R} {slot : Slot} {f : Field UInt8 (Fill R)} {fields : Labelled R}

private theorem labelsKept_nil : LabelsKept clear [] := fun _ hx => absurd hx List.not_mem_nil

private theorem labelsKept_some :
    LabelsKept clear ((some slot, f) :: fields) ↔ Keeps (clear slot) f.act ∧ LabelsKept clear fields :=
  List.forall_mem_cons

private theorem labelsKept_skipped : LabelsKept clear ((none, skipped) :: fields) ↔ LabelsKept clear fields :=
  List.forall_mem_cons.trans (and_iff_right fun _ _ => rfl)

end LabelsKept

def Zda.clear (slot : Slot) (zda : Zda) : Zda :=
  match slot with
  | .time => { zda with timeDate := noTime }
  | .mday => { zda with timeDate.tmMday := 0 }
  | .mon => { zda with timeDate.tmMon := 0 }
  | .year => { zda with timeDate.tmYear := 0 }
  | .ltzh => { zda with ltzh := 0 }
  | .ltzn => { zda with ltzn := 0 }
  | _ => zda

theorem zda_keeps : LabelsKept Zda.clear (zdaLabelled c) := by
  simp only [zdaLabelled, zdaFields, List.map_cons, List.map_nil, List.zip_cons_cons, List.zip_nil_left,
    labelsKept_some, labelsKept_nil, and_true]
  exact ⟨keeps_sixDigits c fun _ _ => rfl, keeps_number fun _ _ => rfl, keeps_number fun _ _ => rfl,
    keeps_number fun _ _ => rfl, keeps_number fun _ _ => rfl, keeps_number fun _ _ => rfl⟩

def Gga.clear (slot : Slot) (gga : Gga) : Gga :=
  match slot with
  | .time => { gga with timeDate := noTime }
  | .latitude => { gga with coordinateDdmm.latitude := 0 }
  | .latDir => { gga with latDir := 0 }
  | .longitude => { gga with coordinateDdmm.longitude := 0 }
  | .lonDir => { gga with lonDir := 0 }
  | .quality => { gga with quality := 0 }
  | .nbSat => { gga with nbSat := 0 }
  | .hdop => { gga with hdop := 0 }
  | .height => { gga with height := 0 }
  | .heightUnit => { gga with heightUnit := 0 }
  | .geoidSeparation => { gga with geoidSeparation := 0 }
  | .geoidUnit => { gga with geoidUnit := 0 }
  | _ => gga

theorem gga_keeps : LabelsKept Gga.clear (ggaLabelled c) := by
  simp only [ggaLabelled, ggaFields, List.map_cons, List.map_nil, List.zip_cons_cons, List.zip_nil_left,
    labelsKept_some, labelsKept_nil, and_true]
  exact ⟨keeps_sixDigits c fun _ _ => rfl, keeps_number fun _ _ => rfl, keeps_letter fun _ _ => rfl,
    keeps_number fun _ _ => rfl, keeps_letter fun _ _ => rfl, keeps_number fun _ _ => rfl,
    keeps_number fun _ _ => rfl, keeps_number fun _ _ => rfl, keeps_number fun _ _ => rfl,
    keeps_letter fun _ _ => rfl, keeps_number fun _ _ => rfl, keeps_letter fun _ _ => rfl⟩

def Vtg.clear (slot : Slot) (vtg : Vtg) : Vtg :=
  match slot with
  | .cogt => { vtg with cogt := 0 }
  | .cogtUnit => { vtg with cogtUnit := 0 }
  | .cogm => { vtg with cogm := 0 }
  | .cogmUnit => { vtg with cogmUnit := 0 }
  | .sogn => { vtg with sogn := 0 }
  | .sognUnit => { vtg with sognUnit := 0 }
  | .sogk => { vtg with sogk := 0 }
  | .sogkUnit => { vtg with sogkUnit := 0 }
  | .posMode => { vtg with posMode := 0 }
  | _ => vtg

theorem vtg_keeps : LabelsKept Vtg.clear (vtgLabelled c) := by
  simp only [vtgLabelled, vtgFields, List.map_cons, List.map_nil, List.zip_cons_cons, List.zip_nil_left,
    labelsKept_some, labelsKept_nil, and_true]
  exact ⟨keeps_number fun _ _ => rfl, keeps_letterUnlessComma fun _ _ => rfl, keeps_number fun _ _ => rfl,
    keeps_letterUnlessComma fun _ _ => rfl, keeps_number fun _ _ => rfl, keeps_letterUnlessComma fun _ _ => rfl,
    keeps_number fun _ _ => rfl, keeps_letterUnlessComma fun _ _ => rfl, keeps_letterUnlessComma fun _ _ => rfl⟩

def Gll.clear (slot : Slot) (gll : Gll) : Gll :=
  match slot with
  | .latitude => { gll with coordinateDdmm.latitude := 0 }
  | .latDir => { gll with latDir := 0 }
  | .longitude => { gll with coordinateDdmm.longitude := 0 }
  | .lonDir => { gll with lonDir := 0 }
  | .time => { gll with timeDate := noTime }
  | .status => { gll with status := 0 }
  | .posMode => { gll with posMode := 0 }
  | _ => gll

theorem gll_keeps (nmeaMsg : List UInt8) : LabelsKept Gll.clear (gllLabelled c nmeaMsg) := by
  simp only [gllLabelled, gllFields, List.map_cons, List.map_nil, List.zip_cons_cons, List.zip_nil_left,
    labelsKept_some, labelsKept_nil, and_true]
  exact ⟨keeps_belowSize (keeps_number fun _ _ => rfl), keeps_belowSize (keeps_letter fun _ _ => rfl),
    keeps_belowSize (keeps_number fun _ _ => rfl), keeps_belowSize (keeps_letterUnlessComma fun _ _ => rfl),
    keeps_belowSize (keeps_sixDigits c fun _ _ => rfl), keeps_belowSize (keeps_letterUnlessComma fun _ _ => rfl),
    keeps_belowSize (keeps_letterUnlessComma fun _ _ => rfl)⟩

def Rmc.clear (slot : Slot) (rmc : Rmc) : Rmc :=
  match slot with
  | .time => { rmc with timeDate := noTime }
  | .dataValid => { rmc with dataValid := 0 }
  | .latitude => { rmc with coordinateDdmm.latitude := 0 }
  | .latDir => { rmc with latDir := 0 }
  | .longitude => { rmc with coordinateDdmm.longitude := 0 }
  | .lonDir => { rmc with lonDir := 0 }
  | .speedKnots => { rmc with speedKnots := 0 }
  | .trueCourse => { rmc with trueCourse := 0 }
  | .date => { rmc with timeDate := noTime }
  | .mv => { rmc with mv := 0 }
  | .mvEw => { rmc with mvEw := 0 }
  | .posMode => { rmc with posMode := 0 }
  | .navStatus => { rmc with navStatus := 0 }
  | _ => rmc

theorem rmc_keeps : LabelsKept Rmc.clear (rmcLabelled c) := by
  simp only [rmcLabelled, rmcFields, List.map_cons, List.map_nil, List.zip_cons_cons, List.zip_nil_left,
    labelsKept_some, labelsKept_nil, and_true]
  exact ⟨keeps_sixDigits c fun _ _ => rfl, keeps_letterUnlessComma fun _ _ => rfl, keeps_number fun _ _ => rfl,
    keeps_letterUnlessComma fun _ _ => rfl, keeps_number fun _ _ => rfl, keeps_letterUnlessComma fun _ _ => rfl,
    keeps_number fun _ _ => rfl, keeps_number fun _ _ => rfl, keeps_sixDigits c fun _ _ => rfl,
    keeps_number fun _ _ => rfl, keeps_letterUnlessComma fun _ _ => rfl, keeps_letterUnlessComma fun _ _ => rfl,
    keeps_letterUnlessComma fun _ _ => rfl⟩

def Gsa.clear (slot : Slot) (gsa : Gsa) : Gsa :=
  match slot with
  | .opMode => { gsa with opMode := 0 }
  | .navMode => { gsa with navMode := 0 }
  | .pdop => { gsa with pdop := 0 }
  | .hdop => { gsa with hdop := 0 }
  | .vdop => { gsa with vdop := 0 }
  | .systemId => { gsa with systemId := 0 }
  | _ => gsa

theorem gsa_keeps : LabelsKept Gsa.clear (gsaLabelled c) := by
  simp only [gsaLabelled, gsaFields, List.replicate, List.map_cons, List.map_nil, List.cons_append, List.nil_append,
    List.zip_cons_cons, List.zip_nil_left, labelsKept_some, labelsKept_skipped, labelsKept_nil, and_true]
  exact ⟨keeps_letter fun _ _ => rfl, keeps_strictNumber fun _ _ => rfl, keeps_strictNumber fun _ _ => rfl,
    keeps_strictNumber fun _ _ => rfl, keeps_strictNumber fun _ _ => rfl, keeps_strictNumber fun _ _ => rfl⟩

def Pbux.clear (slot : Slot) (pbux : Pbux) : Pbux :=
  match slot with
  | .msgId => { pbux with msgId := 0 }
  | .time => { pbux with timeDate := noTime }
  | _ => pbux

theorem pbux_keeps : LabelsKept Pbux.clear (pbuxLabelled c) := by
  simp only [pbuxLabelled, pbuxFields, List.map_cons, List.map_nil, List.zip_cons_cons, List.zip_nil_left,
    labelsKept_some, labelsKept_nil, and_true]
  refine ⟨keeps_strictNumber fun _ _ => rfl, fun text v => ?_⟩
  dsimp only
  split
  · rfl
  · rfl

section Satellites

variable (gsv : Gsv) (i : Nat) (sat sat' : Satellite)

private theorem Gsv.sat_setSat : (gsv.setSat i sat).sat i = sat := if_pos rfl

private theorem Gsv.setSat_setSat : (gsv.setSat i sat).setSat i sat' = gsv.setSat i sat' := by
  have hsat : ∀ j, (if j = i then sat' else if j = i then sat else gsv.sat j) = if j = i then sat' else gsv.sat j := by
    intro j
    split
    · rfl
    · rfl
  rw [setSat, setSat, setSat]
  exact congrArg (fun s => { gsv with sat := s }) (funext hsat)

end Satellites

def Gsv.clear (slot : Slot) (gsv : Gsv) : Gsv :=
  match slot with
  | .numMsg => { gsv with numMsg := 0 }
  | .msgNum => { gsv with msgNum := 0 }
  | .numSv => { gsv with numSv := 0 }
  | .svid i => gsv.setSat i { gsv.sat i with svid := 0 }
  | .elv i => gsv.setSat i { gsv.sat i with elv := 0 }
  | .az i => gsv.setSat i { gsv.sat i with az := 0 }
  | .cno i => gsv.setSat i { gsv.sat i with cno := 0 }
  | .signalId => { gsv with signalId := 0 }
  | _ => gsv

theorem gsvHead_keeps : LabelsKept Gsv.clear (gsvHeadLabelled c) := by
  simp only [gsvHeadLabelled, gsvHead, List.map_cons, List.map_nil, List.zip_cons_cons, List.zip_nil_left,
    labelsKept_some, labelsKept_nil, and_true]
  exact ⟨keeps_number fun _ _ => rfl, keeps_number fun _ _ => rfl, keeps_number fun _ _ => rfl⟩

theorem gsvSat_keeps (i : Nat) : LabelsKept Gsv.clear (gsvSatLabelled c i) := by
  simp only [gsvSatLabelled, gsvSat, List.map_cons, List.map_nil, List.zip_cons_cons, List.zip_nil_left,
    labelsKept_some, labelsKept_nil, and_true]
  refine ⟨keeps_number fun x gsv => ?_, keeps_number fun x gsv => ?_, keeps_number fun x gsv => ?_,
    keeps_number fun x gsv => ?_⟩
  · rw [Gsv.clear, Gsv.sat_setSat, Gsv.setSat_setSat]
    rfl
  · rw [Gsv.clear, Gsv.sat_setSat, Gsv.setSat_setSat]
    rfl
  · rw [Gsv.clear, Gsv.sat_setSat, Gsv.setSat_setSat]
    rfl
  · rw [Gsv.clear, Gsv.sat_setSat, Gsv.setSat_setSat]
    rfl

theorem gsvTail_keeps : LabelsKept Gsv.clear (gsvTailLabelled c) := by
  simp only [gsvTailLabelled, gsvTail, List.zip_cons_cons, List.zip_nil_left, labelsKept_some, labelsKept_nil, and_true]
  exact keeps_number fun _ _ => rfl

end TiMcu.Nmea
