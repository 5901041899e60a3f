import Mathlib.Data.List.Basic

/-!
# Date and time values of the two sides

`MYSQL_TIME` of the server, `date_detail_t` of the connector, and the server's own packing
functions. The latter are not part of the connector: they are the fields of `TimePrims`, and
what the connector relies on is stated where it is used.
-/

namespace CantianConnector.Convert

/-- `MYSQL_TIME`, without the members that only the server reads. -/
structure MysqlTime where
  year : Nat := 0
  month : Nat := 0
  day : Nat := 0
  hour : Nat := 0
  minute : Nat := 0
  second : Nat := 0
  secondPart : Nat := 0
  neg : Bool := false
deriving DecidableEq, Repr

/-- `date_detail_t`. `nanosec` and `tz_offset` are always stored as 0. -/
structure DateDetail where
  year : Nat := 0
  mon : Nat := 0
  day : Nat := 0
  hour : Nat := 0
  min : Nat := 0
  sec : Nat := 0
  millisec : Nat := 0
  microsec : Nat := 0
  nanosec : Nat := 0
deriving DecidableEq, Repr

/-- `DATETIME_MAX_DECIMALS`. -/
def datetimeMaxDecimals : Nat := 6

/-- The server's packing functions for TIME, DATETIME and TIMESTAMP values. -/
structure TimePrims where
  myTimePackedFromBinary : List UInt8 → Nat → Int
  myTimePackedToBinary : Int → Nat → List UInt8
  timeFromLonglongTimePacked : Int → MysqlTime
  timeToLonglongTimePacked : MysqlTime → Int
  myDatetimePackedFromBinary : List UInt8 → Nat → Int
  myDatetimePackedToBinary : Int → Nat → List UInt8
  timeFromLonglongDatetimePacked : Int → MysqlTime
  timeToLonglongDatetimePacked : MysqlTime → Int
  /-- Seconds and microseconds of a stored TIMESTAMP. -/
  myTimestampFromBinary : List UInt8 → Nat → Nat × Nat
  /-- `my_tz_UTC->gmt_sec_to_TIME`. -/
  gmtSecToTime : Nat × Nat → MysqlTime
  /-- `TIME_to_gmt_sec` of `my_tz_OFFSET0`; 0 outside the supported range. -/
  timeToGmtSec : MysqlTime → Nat

end CantianConnector.Convert
