import Tr069d.Types

/-!
# Building SOAP messages

`SoapBuilder.cpp`.  The Inform takes its values as arguments; collecting them
from the data model is the part of the session.

The functions write text; that the text is the print of a tree, and that a reader
gets the tree back, is shown in the modules on outgoing messages.  Counts are natural
numbers and codes are integers, as the source has them.
-/

namespace Tr069d

namespace SoapBuilder

/-- `SoapBuilder::escape` -/
def escape (value : String) : String :=
  String.join (value.toList.map fun c =>
    match c with
    | '&' => "&amp;"
    | '<' => "&lt;"
    | '>' => "&gt;"
    | '"' => "&quot;"
    | '\'' => "&apos;"
    | c => c.toString)

/-- `SoapBuilder::envelope` -/
def envelope (id body : String) : String :=
  "<?xml version=\"1.0\" encoding=\"UTF-8\"?>" ++
  "<soap-env:Envelope xmlns:soap-env=\"http://schemas.xmlsoap.org/soap/envelope/\" " ++
  "xmlns:soap-enc=\"http://schemas.xmlsoap.org/soap/encoding/\" " ++
  "xmlns:xsd=\"http://www.w3.org/2001/XMLSchema\" " ++
  "xmlns:xsi=\"http://www.w3.org/2001/XMLSchema-instance\" " ++
  "xmlns:cwmp=\"urn:dslforum-org:cwmp-1-2\">" ++
  "<soap-env:Header><cwmp:ID soap-env:mustUnderstand=\"1\">" ++ escape id ++
  "</cwmp:ID></soap-env:Header><soap-env:Body>" ++ body ++
  "</soap-env:Body></soap-env:Envelope>"

/-- One entry of a parameter list. -/
def valueStruct (value : ParameterValue) : String :=
  "<ParameterValueStruct><Name>" ++ escape value.name ++ "</Name><Value xsi:type=\"" ++
    escape value.type ++ "\">" ++ escape value.value ++ "</Value></ParameterValueStruct>"

/-- `std::vector::size` in a text. -/
def count {α : Type} (values : List α) : String :=
  toString values.length

/-- The device of an Inform. -/
structure DeviceId where
  manufacturer : String
  oui : String
  productClass : String
  serialNumber : String
  deriving DecidableEq, Repr

/-- `SoapBuilder::inform` -/
def inform (id : String) (device : DeviceId) (events : List String)
    (params : List ParameterValue) (time : String) (retryCount : Nat := 0) : String :=
  envelope id ("<cwmp:Inform><DeviceId>" ++
    "<Manufacturer>" ++ escape device.manufacturer ++ "</Manufacturer>" ++
    "<OUI>" ++ escape device.oui ++ "</OUI>" ++
    "<ProductClass>" ++ escape device.productClass ++ "</ProductClass>" ++
    "<SerialNumber>" ++ escape device.serialNumber ++ "</SerialNumber>" ++
    "</DeviceId><Event soap-enc:arrayType=\"cwmp:EventStruct[" ++ count events ++ "]\">" ++
    String.join (events.map fun event => "<EventStruct><EventCode>" ++ escape event ++
      "</EventCode><CommandKey></CommandKey></EventStruct>") ++
    "</Event><MaxEnvelopes>1</MaxEnvelopes><CurrentTime>" ++ time ++
    "</CurrentTime><RetryCount>" ++ toString retryCount ++
    "</RetryCount><ParameterList soap-enc:arrayType=\"cwmp:ParameterValueStruct[" ++
    count params ++ "]\">" ++ String.join (params.map valueStruct) ++
    "</ParameterList></cwmp:Inform>")

/-- `SoapBuilder::transferComplete` -/
def transferComplete (id : String) (result : TransferResult) : String :=
  envelope id ("<cwmp:TransferComplete><CommandKey>" ++ escape result.commandKey ++
    "</CommandKey><FaultStruct><FaultCode>" ++ toString result.faultCode ++
    "</FaultCode><FaultString>" ++ escape result.faultString ++
    "</FaultString></FaultStruct><StartTime>" ++ escape result.startTime ++
    "</StartTime><CompleteTime>" ++ escape result.completeTime ++
    "</CompleteTime></cwmp:TransferComplete>")

/-- `SoapBuilder::getParameterValuesResponse` -/
def getParameterValuesResponse (id : String) (values : List ParameterValue) : String :=
  envelope id ("<cwmp:GetParameterValuesResponse><ParameterList " ++
    "soap-enc:arrayType=\"cwmp:ParameterValueStruct[" ++ count values ++ "]\">" ++
    String.join (values.map valueStruct) ++
    "</ParameterList></cwmp:GetParameterValuesResponse>")

/-- `SoapBuilder::setParameterValuesResponse` -/
def setParameterValuesResponse (id : String) (status : Int := 0) : String :=
  envelope id ("<cwmp:SetParameterValuesResponse><Status>" ++ toString status ++
    "</Status></cwmp:SetParameterValuesResponse>")

/-- `SoapBuilder::getParameterNamesResponse` -/
def getParameterNamesResponse (id : String) (values : List ParameterInfo) : String :=
  envelope id ("<cwmp:GetParameterNamesResponse><ParameterList " ++
    "soap-enc:arrayType=\"cwmp:ParameterInfoStruct[" ++ count values ++ "]\">" ++
    String.join (values.map fun value => "<ParameterInfoStruct><Name>" ++ escape value.name ++
      "</Name><Writable>" ++ (if value.writable then "1" else "0") ++
      "</Writable></ParameterInfoStruct>") ++
    "</ParameterList></cwmp:GetParameterNamesResponse>")

/-- `SoapBuilder::rebootResponse` -/
def rebootResponse (id : String) : String :=
  envelope id "<cwmp:RebootResponse/>"

/-- `SoapBuilder::downloadResponse` -/
def downloadResponse (id : String) (status : Int) (start complete : String) : String :=
  envelope id ("<cwmp:DownloadResponse><Status>" ++ toString status ++ "</Status><StartTime>" ++
    escape start ++ "</StartTime><CompleteTime>" ++ escape complete ++
    "</CompleteTime></cwmp:DownloadResponse>")

/-- `SoapBuilder::fault` -/
def fault (id : String) (code : Int) (message : String) (parameterFaults : List String := []) :
    String :=
  envelope id ("<soap-env:Fault><faultcode>Client</faultcode><faultstring>CWMP fault" ++
    "</faultstring><detail><cwmp:Fault><FaultCode>" ++ toString code ++
    "</FaultCode><FaultString>" ++ escape message ++ "</FaultString>" ++
    String.join (parameterFaults.map fun name => "<SetParameterValuesFault><ParameterName>" ++
      escape name ++ "</ParameterName><FaultCode>9007</FaultCode><FaultString>" ++
      "Invalid parameter value</FaultString></SetParameterValuesFault>") ++
    "</cwmp:Fault></detail></soap-env:Fault>")

end SoapBuilder

end Tr069d
