/-!
# Words of character names

The words that the names of characters are made of, in two sorted lists. A small letter before each
word tells how many characters it shares with the start of the word before it: `a` for none, `b` for
one, and so on. Blanks and line ends have no meaning.
-/

namespace Haml.CharacterName

/-- The words that occur most often. -/
def commonWords : String :=
  "a-AbCHALeRbDZUDbKHYILeUDbPHRUbUMaAb-1cEUcOcUcWOb001d5Ad6eAd7c10Ad1d4Ad5d7Ad8c26Ad7d8Bc32Ad3d9Ac4
  0eAd1eAd2eAd3eAd4d5Ad6eAd7c66Ad7c97Ad8eAd9b100-102eAd1eAd2eAd3d4Ad5eAd6d7Ad8c10Ad1d5Ad6c20Bd5Ad6
  c31Cd5Ad6b2c02Ad3d7Ad8d9Ac10d5Ad6eAd7c27Ad8c67Ad8c89Ac90d4Ad5d9Ab3c00d1d9Ac10d3Ad4c29Ac30d2Ad3d6
  Ad7c59Ac60d4Ad5d8Ad9c71Ad2c81Ad2d3eAd4d6Ad7c93d4b400-VASd1-VASd2-VASd3-VASd4-VASd5-VASd6-VASd7-V
  ASd8-VASd9-VASc10e-VASeAd1e-VASd2-VASd3-VASd4-VASd5-VASd6-VASd7-VASd8-VASc50Ad1d7Ad8b501d8c15c20
  d3c34c45d7c59c63d8c91d4d8b600d6d8c26c34d7c40d2d8c51b701d2d3d4d5d6d7d8d9e-2f3f4f6c10d1d2d3d4d5d7c
  26c32b800bAc001e7Ae8cBAAFILIcIcJcKcMcNdGcOcRUcUcWcYdANNAdINcZHAAKKUbBc001d13e6d20e1FfMe2fFfMe3fM
  e4e6e9d34e7d44d53d65e9d73e6d85c118d20e2d31Ad64d71d80e8d91c2cACUSdFILIcBdREVIATIONcKHASIANcOVEcUN
  DANCEcYSMALbCcADEMYcCENTg-STACCATOePTdOMMODATIONeRDIONeUNTdUMULATIONcEcKdNOWLEDGEcROPHONICcTIVAT
  EdUALLYcUTEf-GRAVE-ACUTEgMACRONbDcAKcDAKdRESShEDcEGcHESIVEcIcLAMcMETOSdISSIONcOcULTcVANCEfTAGEbE
  cBcDdA-PILLAcEdYANNAcGdEANcKcLdA-PILLAcNdGcRdIALcSdCeULAPIUScTcYdANNAbFFIXdRICATIONcGHANIcOREMEN
  TIONEDcRICANcSAAQcTERbGcAINfSTcEcGRAVATEDiIONcOGIcUNGbHcADdGGARdNGcHcOMcSAdDAbIcDcHVUScKARAcLMcN
  dNdUcRdPLANEcTONcVAdILIKcYANNAbKcARAcBARcHMIMICcSAcTIESELSKABcURUbLc-JUZdLAKUNAcAFdNdPHdRMdYHAAf
  EfIgMhAAeNAAcBANIANcCHEMICALcEFdMBICdPHdRTdUTcFdAcGIZcIdENdFeUdGNEDcKALIg-2cLdAAHgUeHfOUdIeANCEd
  OcMdOSTcPAePRAANAhNAdHAcTdAdERNATEiINGjONjVEcUMcVEOLARbMcALGAMhATIONdRcBdAdULANCEcERICANhScOUNTc
  PERSANDdHORAdScULETbNc-NISFcAPdTOLIANfMICALeRICHISMAcCHORdORAcDdAPcGdEDeLeRdKAeHANKHUdLEfDeICANA
  dRYdSTROMdUISHEDeLARcHdAAdUeMfAAeNNAcIMALcJIcKHcNdAAUdOTATIONdUITYcOcPEAcSHEdUZcTdARGOMUKHAdENNA
  dICLOCKWISEn-ROTATEDeFONIAeKENOKYLISMAiMAeMONIATEhYi-2eRESTRICTIONcUDATTAdSVARAiYAbOcRcUbPcAATOd
  RTcCcESOcINcLdIdOUNcODERMAfXIAdLLONdSTROFOIjShPHEdTHEMAgScPLEeICATIONdROACHiESfXIMATElLYcRILcUNb
  QcUAeFORTISeRIUSbRc-RAHEEMgMANeUBcABIANfCg-INDICdDdEAf-AgEhOgIgUfEdMAICcCdHeAICgONcDHACANDRAfVIS
  ARGAcEdAdPAcGIdONeSYNTHETONeTERIcIESdSTERAcKAANUeBdTIKOcLAUGcMdENIANdOURdSdYcOUNDg-PROFILEeRAeSI
  NGcPEGGIATOcRAYdIVEfINGdOWf-TAILfHEADj-SHAPEDjSfScSENICeOScTAeBEdICULATEDeSTdScUHUAbSc-SAJDAfLAA
  MiTUcAL2dTcCENDINGfTdIAcHd2d3d9dESdGABcIA-AUSTRALIAcPERdIRATEDhIONcSALLAMdERTIONdYRIANcTERISCUSh
  KiShMdONISHEDdRAEAeOLOGICALfNOMICALcYMPTOTICALLYdURAcZbTcH-THALATHAdAPASCANeRVAVEDICdLETICcIKRAM
  AdUdYAcMAAUcNAHcOMcTdACHEDgINGeKdENTIONdHACANdICbUcBERGINEcEcGMENTATIONdUSTcNNcRAMAZDAAk-2kHAdIP
  IGMENTcSTRALcTOeMATEDfOBILEdUMNcYANNAbVcAGRAHAdKRAHASANYAcERAGEdSTANcOCADObWcAYcCcEcQcXcZbXcEbYc
  AHdNNAcBcERcINe-DALETHcNbZcUcZAaBb001d2d3d4d5eAd6d7d8d9c10d1d2d3d4d5d6d7d8c20d1d2d3d4d5d6d7d8d9c
  30d1d2d3d4d6d7d8d9c40d1d2d3d4d5d6d7d8d9c50d1d2d3d4d5d6d7d8d9c60d1d2d3d5d6d7d8d9c70d1d2d3d4d5d6d7
  d8d9c80d1d2d5d6d7d9c90d1b100d2d4d5eFeMd6FeMd7FeMd8FeMd9FeMc20d1d2d3d5d7d8c30d1d2d3d5c40d1d2d5d6c
  50d1d2d5d6d7d9c60d2d3d4c73d4d6d7c89c91b200c20d1d5d6c30d1d2d3d4d6c40d1d2d3d5d7d8c50d1d4d5b305bAc-
  2cAdRERUcBYcCKe-TILTEDeHANDeSLANTEDhSHfPACEeWARDdONdTRIANcDdGEfRdMINTONcGd3dAdELdGAGEdSdUETTEcHd
  AR2dIRGOMUKHAdTcIMAIdRKANcLdAGdDdINESEdLeETeOONh-SPOKEDfTePOINTdUDAcMBOOgSdUMcNd2dANAdDeAGEdGdJO
  dKeNOTEdTOCcPcRdA2dBeERdIYOOSANdLEYeINEdREDfEfKHeIERdScSEeBALLeLINEdHeKIRdKETgBALLdSAcTdAKdHeAMA
  SATeTUBdTERYcUcXcYANNAbBcAdAdPdTdXcEdEdPdXcIdEePeTeXdPdTdXcOdPdTdXcUdOePeXdPdReXdTdXcYdPdTdXbCAD
  bEcACHdDSdMeEDdNeSdReDEDdTeINGdVERcCAUSEcDcEdHeIVEdRdTAeLEcFOREcGINfNERgINGcHdEHdINDcIdTHcLdGTHO
  RdLeHOPdOWdTcNdDeEdGALIdTeOdZENEcORCcPcRBERdKANANcSIDEcTdAdHdWEENcVERAGEcXcYYALbHcAdAdIKSUKIdMdT
  TIPROLUcEdEdTHcIcOdOcUbIcBdLE-CREEcCEPSdYCLEhSgISTcDENTALcEdPdTdXcGcKINIcLABIALdLEDeIARDSfONScNA
  RYdDIfNGeUdOCULAReVILEcOHAZARDcPcRDdGAdTHDAYdUcSAHdECTINGdHOPdMILLAHeUTHdONcTdCOINdEdINGdTERcXbJ
  ARKANbKA-bLAdCKf-FEATHEREDgLETTERfFOOTfLETTERdDEdNKcENDEDcINKcOCKf-1358g2dNDdODdSSOMdWeFISHeINGc
  UEeBERRIESbOcAdReDdTcDYcHAIRICcLDdTcMdBcNEcOdKeMARKeSdMERANGdTeScPdOMOFOcRAXf-2dUTOdZAYAeYcTdHdT
  LEeOMg-LIGHTEDhSHADEDcUNDARYdQUETcWdINGdLeINGdTIEcXdINGcYdSbPHbQbRAdCEeKEThEDhSdHMIdILLEeNdKCETd
  NCHgESgINGcDAcEADeKfTHROUGHeST-FEEDINGeTHgYdVEf-MACRONeIScIdCKdDEeGEdEFCASEfSdGHTNESSdSTLEcOADdC
  COLIdKENdNZEdOMdWNcUSHbScDUScKA-dURcTARbUcBBLEgScCKETeLEcDcFFALOcGdINESEcHIDcILDINGiScKYcLBdLeET
  eHORNeSfEYEdUGcMPYcNGdNYcOdNdPdXdYcPcRd2dRITOdUdXcSdINESSdSYERUdTeScTdTERgFLYeONcUMISHcXbWAcEdEc
  IbXGbYcELORUSSIAN-UKRAINIANcPcRdXcTdEcXcZANTINEbZHIcUNGaCb-18c39cSIMPLIFIEDb001d2Ad3c10Ad1bAcAdI
  dNGcBBAGE-TREEdINETdLEWAYcCTUScDAdUCEUScESURAcHcIcKEdRAcLdCeULATORdENDARdLdXdYAcMELeRAdNUCdPINGc
  NdADIANdCELgLATIONfRdDLEeRAgBINDUeYdEdGdNEDeONdOEdTILLATIONcPdITALfULUMdOdPEDdRICORNdTIVEdUTcRdD
  eSdEeTdIANeKdONeUSELdPeENTRYdRIAGEfEReOTdSdTeRIDGEeWHEELdYSTIANcSKETdTLEcTdAWAcUdCASIANdDAfTEdLD
  RONdTIONcVEcXcYANNAdNbCcAdAcEcHEbEcCAKcDILLAcEcILINGcNTeRALIZATIONfEgDgLINEbHcAdAdIRdReACTERj-eI
  OTeTdSHKAdTcEdCKfERdEeKSdHdLYUSTKAdROKEEdSSdVRONcIdEUCHdLDeLUdNeESEcOdREVMAdSEONGcRISTMASeVIdOMA
  eNOUcUdRCHbIcEUCcLcMcPcRCLEgDgSfINGeULARfMFLEXcTYeSCAPEbJKbLANcEFcICKdFFdNKINGcOCKfWISEdSEfDeING
  dTHfESdUDcUBdSTER-INITIALbMbOcATcLDdONcMBININGdMAfNDeERCIALdPATIBILITYeLETIONeOSITIONeUTERcNGRAT
  ULATIONdJOINEDhINGdSONANTeTANTfRUCTIONdTACTfINhINGhSeOUReROLcOdKIEcPPERdRODUCTdTICdYRIGHTcRNERgS
  cVERfINGcWbREAMdDITdSCENTiScICKETcOCUSdSSfBONESfEDh-TAILfHATCHfINGdWNcYINGdPTOGRAMMICbUcATRILLOc
  BEeDcMcNEIFORMcOPcPdPEDcRLeICUEeYdRENCYgTdVEfDeINGcTbWAcIbYcAcPcRILLICcTaDbAcAdLIcDcGdESHdGERcHA
  LcLdATHdETfHcMMAfTANcNDAdGdTAJAcPd-BEIfUONeMUOYePIIfRAMcRdA3dKeENINGcSHeEDdIAcTdAdEcYdANNAbBbDAd
  AdHALdLdYANNAcDAdHAcEcHAeAdOcIcOcUdRbEcATHcCIMALdORATIONdREASEcEdRcGREEgScLdETEdIMITERdTAcMESTVE
  NNYcNEdOMINATORdTALcPARTINGgUREcSCENDERhINGdKTOPcVANAGARIdICEcXIAcZHbHAcEcObIcAERESISdGONALdLECT
  -PeYTIKAdMONDdTONIKIcBcEdSIScFFERENTIALdONIAScGAeMMAdITdRAMgMOSfPHcMd2dINUTION-1cNdGBATcPLIcRECT
  gIONjALgLYcSAPPOINTEDdCdHdIMOUdKcVIDEgDgReNATIONeSIONcZZYbJEdRVfIbKARbLAcEbOcACHASHMEEcBROcCUMEN
  TcEScGcIcLLAReScNdGcOdRcTdLESSdSdTEDcUBLEg-LINEhSTRUCKgDcVEcWNe-POINTINGeWARDSbRACHMAdGONdMdUGHT
  SdWINGScESScINKdVEcOPLETcUMcYbUcBcGcLcNd3dGbVOECHELNAYAjOPOVODNAYAbWEbYEHcObZcAcEdEdLOcHAdEcIcOc
  UaEb2bAcGLEcRdSdTHcSTeERNcTbBbCcHcSbDbEbFbGGcYdPTOLOGICALbHcCHAcKAcPAcTAdSAbIcEcGHTfEENfHgSfIETH
  SfYcNbJbKcFONITIKONbLcAMITEcECTRICdMENTdPHANTdVENcIFIcLIPSIScYbMcOJIcPdHASISdTYbNcCdLOSINGgUREcD
  cGdINEcNcQUIRYcTd-SHAPEDdERfPRISEdRYcVELOPEcYbObPcIDAUREANdGRAPHICcSILONbQUALfSdIHOPPEReLATERALe
  VALENTbRcAdSEcENcIN2cRbScCAPEcHd2cZbTcAcERNITYeONcHdIOPICcYbUcROePEANbVcENbWcEbXcCLAMATIONcOcTEN
  DEDfSIONdRA-HIGHgLOWeEMELYbYEdBROWSdGAZE-FLOORPLANEiWALLPLANEdScNbZcENcHcSaFbAcAcCEdINGdTORcLLIN
  GcMILYcNcRSIcTHAfTANeERcXbEcATHERcEdDcHcMALEdININEcNCEdGcRMATAbFbIcELDcFTEENeHeYcGUREcLEdLeERdMc
  NALeNCIALdGERgScREdSTcSHeHOOKdTcTAcVEcXED-FORMbLAGdTeBREADeTENEDcEURONdXcICKdPcOORdPPYdRALdURISH
  dWERcUTEeTERINGcYdINGbOcLDERdLOWINGcMcNcOdDdTeNOTEcRdKdMdTIETHeYdWARDcUNTAINdReTEENfHcXbRACTIONd
  KTURdMEcEEdNCHcITUcOGdMdNTf-TILTEDdWNfINGbTHORAbUcEcLLeWIDTHcNCTIONiALcRbWAcEEcIaGbAc2cAcBAcDcET
  TA-PILLAcFcHcLdIcMEdMAcNd2dGIAcPcRdSHUNIcTEdHERINGcYdANNAfUKITTAbBAcEdEcIcOdOcUbCIGbEcARcEcMINAT
  IONcNERALcOMETRICALLYdRGIANcPcRESHdSHAYIMcSHTINbGAcEcIcOdPcUdObHAdAdDdINdNcEdUAEcHAcOdSTcUNNAbIc
  4cBBOUScMdELcR2cSHbJEbLAGOLIhTICdSScOBEdTTALbNYISbOcALcLDcNDIcRAZDOdGIeONcTbRACEdMdNTHAdSSdVEcEA
  TfERh-THANdEKeNcINNINGcOMNAYAeOKRYZHEVAYAfPOVODNAYAdUNDePbSUMbTERbUc2cARDEDcDcEHcLcNUcRd7dAGEbWA
  cEdEcIbYAScONaHbAcAcEcHcIRcLdANTAdFe-CIRCLEeWIDTHcMMERdZAcNdDe-ANGLEfCIRCLEgLAWgUPhRLICUEfFISTgL
  ATfHINGEgOOKfOVALeLEeSdGULeZHOUcRdDdPOONcSANTAcTcUcVEbEcADeINGeSTONEgROKEdRTf-SHAPEDfSdVENeYcBRE
  WcEdLcHcLMETcNdGdTAIGANAcREdMIONIANdUcTdHbGbHAdAcWAbIcEdROGLYPHdUHcGHe-REVERSED-9cIcNdGEfDcPcRAG
  ANAdIQcTdTINGcYObLAcIbMOdNGbNAbOcCKEYcEcLAMdDINGdEdOcMOTHETICcNcOdKeEDcPcRIeZONTALdNeSdRdSEcTcUR
  eGLASSdSEbPbTAbUcB2cGGINGcMANdPcNdDREDhSbVbWAIRcEbXITcOPcUObYAcPHENg-MINUSgATIONbZaIbAcNbBbCcEcH
  OSbDENTICALgFICATIONdOGRAMhPHj-k4E09m8Ck6253jICcIMcLEbEcUNGf-KIYEOKbGcIbHbIbJEbLIMMUbMcAGEcINcPE
  RFECTAbNcCREASEcDEPENDENTeXdICfATORcFINITYdORMATIONcGcHIBITcIdTIALcNERcSERTIONdIDEdULARcTEGRALhT
  IONeRROBANGfSECTIONdRODUCERcVERSEfTEDbOcTAeTEDdIFIEDbQbRcONbScHcOLATEDdNcSHARbTcALICcERATIONbUbX
  bYbZHEdITSAaJb-SIMPLIFIEDbAcAcCKcDEcPANESEcRcYANNAbEcEdMcHbHAdNcEHbIcHVAMULIYAcIMcLbJAcIdEcOcUdT
  cYbNYAbOcINeEDfRcKERcNGSEONGcOcTcYbUcNGSEONGbWAaKbAc2cAdFcBdAcD2d3cFcHcIcKdOcLcNdGdNADAcPdAdHdPA
  dYEOUNMIEUMiPHIEUPHjIEUPiRIEULiSSANGPIEUPcRENdOcSHMIRIdKALdRAfTANcTAKANAi-HIRAGANAdHAKAdOcVYKAcY
  dAHbEcEdPINGcHdEHcMPLIeULcNdTIMAhTAcSH2cTdTIcUMdXcYdBOARDdCAPbGbHAdAdHdIdMTIdPHdRcEdIcHAcIdEUKHd
  TANcMERcOdKHLOMbIcDcNdGdNAcPcRGHIZcSIM5dSeINGcTcYEOKg-SIOSbJEbKcAbLASMAcYUCHgENEPOSTOYANNAYAhVAY
  AbMbNIFEdGHTg-BISHOPhQUEENhROOKcUCKLEhSbOcIcKcMBUVAdIcNdTEVMAcOcPPAcREANdONIScTObPcAcEdEcIcOdOcU
  bRYUKOVAYAdZHfEMbSIcSAbUc3cLcNcOPcRcSHU2cTbVAbWcAdAcEdEcIbXAbYAcEEaLbAcAdMcBIALdORcEcGABeRcIdNGc
  K-050f79f81dEdHcLcMdDAdEeDfHdPcNdEScOcPcRGEfRfSTcSdTcTERALdINfATEcWcYANNAcZYbCEbEcADERdFdTHERcEd
  EEdRAEWAcFTe-FACINGfPOINTINGfSHADEDfTO-RIGHTeWARDScGcIMMAcKcNGAeTHgENERdISdTICULARcSHdS-THANcTdT
  ERgScUcVELcZHbHcAdAcIcObIcDcEcGATUREdHTfNINGcMMUcNEeAReSdGdKcPdScQUIDcRAcSHdUcTTEReLEcWNbJcEcUDI
  JEbLcAcLAbOcCATIONdKeING-SHIFTdOMOTIVEcGICALdOGRAMcMcNGeAcOdPdTcQcTUScVEcWd-9eFALLINGdERfEDcZENG
  EbSbUc2c3cEcGALdGAGEcHcLcMcNATEbWAbYcRbZaMb001d2d4c11d3d6d7d8c23d5d9c32d4c41bAcAcCHINEdRONcDDAfH
  cEdMeBAdSIcHdAAPRAANAePRANAcIcKSURAcLAYALAMdEdOcNdCHUdDAILINGfRINcPdIQcQcRdBUTAdKe-1eERdTYRIAcSH
  e2dKcTHEMATICALcYdEKbBcAdAdNYIcEdEdNdUMcIdTcOdOcUbCcHUbDUNbEcASUREhDdTcDALdEFAIDRINdIALeEVALeUMc
  EdEEdJdMdTeEIcGAcLONcMd-QOPHdBERcNcRCURYcSdHdSAGEcTALcUNdTbFONbGBAcObHAbIcCROPHONEcDd-LEVELdDLEg
  -WELSHdLINEcEEdUMf-KIYEOKgPANSIOShIEUPgSIOScGcIMcLITARYdLEeIONScMcNdIMAdUScRRORcTbLAbMbNASbOcBIL
  EcDIFIERi-2cNdEYdGOLIANdKEYdOCULAReFONIASeGRAMiMOShPHeSPACEdTHcOdNcPcRTARcTHERdORcUNDeTAINdSEdTH
  cVEMENTi-FLOORPLANEjWALLPLANEbPAbRACHNAYAbUcAEdNcCHcGcLTIMAPfPLEhICATIONcOYcRDAcSHe3dICfALcURDHA
  JAbVcOPbWcAcEdEcIbYcAdNMARcSLITEaNb-ARYcCREEbAc2cAdSIKYAYAcBLAcEcGdAcHcKAARAcM2dEcNAcQcRdROWcSAL
  fIZATIONdHIdKAPIcTIONALdURALcYANNAbBIEbDAdAdMdPcEdEcIcOdLEdOcUbEcCKcEcGAeTEDfIVEcITHERcLcNdOEcOc
  POSTOYANNAYAdTUNEcSTeEDcTcUTRALcWdLINEdSPAPERcXTbGcAdAdScEdNcGAeAMdEeEeNeUAETdIdOeOdUcHAcIcKAdUE
  dWAENcOdEHdMdNdPdUbHAbIcEUNf-CIEUCgHIEUHgKIYEOKgPANSIOSgSIOSgTIKEUTcGHTcIcKOLSBURGcNdDA2dEeTEENf
  YcZKObJcAdEMfLIdMcEdEdUXcIcOdOcUdAEdEQbKAARAEbNcAcNAbOc-BREAKcOdNcRdMALdTHfERNcSEcTdATIONdCHfEDd
  EeHEADeScWcZHKAbRAbSHAdIEEdUTcIEEbTAAdPcEEdUMcOGcUUbUc11cAEcBIANcENGcKTAcLLcMBERdERALgTORfICcNdG
  dUZcSHUcTdILLUbWAbYcAdAdMcEdEdHdTcHAcIdPdSdTcOdPcUbZAcUPaObAcYbBLIQUEbDDbEcEbFcFICEbGONEKbHcMbIc
  LcNbJIBWAYbKcTObLcDdERcIGONdVEbMcEGAcICRONbNcCOMINGcEd-HUNDRED-AND-SIXTIETHcGcNcUbOcEcUbPcENeING
  dRATORcPOSINGgTIONcTICALbQbRcANGEcDINALcEcIGINALcKHONcNAMENTbSbTcTAVAcUbUcNCEcTdLINEDbVcALcEReBA
  ReLAIDgPhPINGgYfINEfONGbWbXcEIAcIAbYcRANISMAaPbAcAdMcDdAcGEeScHLAVIcIREDcKPAKcLATALeUNGdIdMdOCHK
  AcMADAdUDPODcNdGOLATdSIOSdTIcPdERcRdAeGRAPHeKALESMAfLITIKIeLLELdENTHESESjISkZEDeSTIGMENONdTeIALe
  NERSHIPeYcTAHdHdTERNcWdNcYEROKbEcACEdKScDALdESTALgRIANcEcHdEHcLASTONcNdCILdTAGONfSEMEcOPLEcPETdP
  ERcRdCENTdFECTAdISPOMENIdMICdPENDICULARdSIANeONgALcSH2dOcTALLEDcUXbHAdAdReYNGEALcEcIdEUPHh-PIEUP
  cOdNEcURbIcASMAcCKcEdCEdUPf-CHIEUCHhIEUCgHIEUHgKIYEOKgPHIEUPHgSIOSk-KIYEOKlTIKEUTgTHIEUTHhIKEUTc
  GcIcLCROWcNdGdWHEELcPdAEMBAgGBIEEcRIGcTdCHFORKcWRbLAdCEfHOLDERdGIOSdNEdYINGcOPHUcUSdTAeObMbOcDCH
  ASHIEcINTfEDgRfINGcKOJIcLEdIeCEeSHdLUcMMEEcNcOcPcSITIONdSESSIONdTeALcTdATOcUNDdTINGcVODNAYAdYSHE
  cWERbRAMe-BEIgUONfMUOYfPIIcECEDEhSgINGdFIXEDdGNANTdPONDERANCEdSENTATIONcIMEdNTfERdSHTHAMATRAdVAT
  EcODUCTdLATIONEeONGEDdPOfRTIONdSGEGRAMMENIeTAYAdTECTEDbSIdFISTONdLIbUc2cAEcEcNCTUATIONcPcRPLEcSH
  PINcTbWAcEdEcIcObYTaQbAcAdFcFcIcMATScRcTANbEbIcIcTSAbOcFcOcPHcTbUcAdDeRANTfUPLEdRTERhScEdENdSTIO
  NcIdLLeTcOdTATIONeEcUbWEdEcIaRb-CREEbAcAcBBITcCINGdQUETcDdIeCALeOcEcFEcILWAYdNdSEDeINGcMdScNAdGE
  cPcTdHAcYdSbDELcObEcACHcCEIVERdORDdTANGLEhULARdYCLINGcDdUPLICATIONcEcFORMEDcGULUScHcLATIONeXEDdI
  EVEDcNcPAdEATeTITIONcSHdOURCEdPONSEdTcTROFLEXdURNcUXcVERSEhDdOLVINGbGYAeNbHAcObIcBBONcCEcEEdULf-
  HIEUHgKAPYEOUNPIEUPhHIEUKHhIYEOKm-SIOSgMIEUMgNIEUNgPANSIOShHIEUPHhIEUPl-SIOSgSIOShSANGKIYEOKgTHI
  EUTHhIKEUTgYEORINHIEUHcGHTf-FACINGgPOINTINGgSHADEDkOWEDgTO-LEFTfWARDScIcNGeScSHdINGcTSIbJEbNAMcO
  ONcYINGbOcCKeETcGcHINGYAcLLEReINGcMANfIANcOdKdTcSETTEcTATEDfIONi-FLOORPLANEjWALLPLANEdUNDAcUNDfE
  DbRcAcEdHcObTAGSbUcBcDIMENTAcMdAIcNNINGcPEEbWAbYaSbAcAcDdEdHEcFETYdHAcGcHcLdLAfLLAHOUdTeIREcMdAR
  ITANdBAdEKHdPIcNdDALeHIdS-SERIFdYAKAcPcRdAdIcSAKcTdELLITEcWcYdISIbCANDICUScHOOLdWAcISSORScREENdI
  PTbEcALcBATBEITcCONDdTIONcEdNcGMENTdNOdOLcHcISMAcLECTORdFcMI-VOICEDeBREVISeCIRCLEiULARfOLONeDIRE
  CTeMINIMAcPARATORcQUENTIALcRIFfScTcUXcVENfTEENgYbGABdWbHcAd3d6dAdDeDAeEeOWEDdFTdKINGdNdR2ePeUdTc
  CHAcEdEeNePdIdLLdSHfIGdTdUXcHAcIdDdELDdFTdIdMeAdNdPdQdRdTAcOdEdGeIdOdPePINGdQdRTfSdULDERdYcRIeMP
  cTAePICcUd2dRcWAdEcYbIcBEcDDHAMdEeWAYScGd4dMAdNcIcK2cLA3dHOUETTEdKcMAeLUNGUNdILARdPLIFIEDcNdGLEg
  -LINEdHALAdNYIIYHEcOSe-CHIEUCHgIEUCfHIEUHfKIYEOKfMIEUMfNIEUNfPIEUPfRIEULfTHIEUTHgIKEUTcXdTEENhTH
  jSeHfSeYf-FOURTHcYAQbKAMEYTSAdTEcEWEDcIcLIRONcULLbLANTEDdSHcEEPINGcICEdGHTLYcOANdVOdWbMALLfERdSH
  cILEeINGbNAKEcOUTdWeMANbOcAPcCIETYcFdTcGDIANcLDIERdIDUScMcOcROCHYAcScTcUNDdRCEdTHfERNbPcAdCEeING
  dDEcEAKEReRdCIALdECHcHERICALcIDERYdRALeITcLITcOKEDdONcREADbQUAREgDgSeTdEEZEdIGGLEbREDNEbScAdNGCI
  EUCfHIEUHfIEUNGfKIYEOKfNIEUNfPIEUPfRIEULfSIOSfTIKEUTcEcIcOcUdUbTcAFFdMPEDdNDARDdReTdTYAdVROScEAM
  dMdPcICKfINGdGMAdLEcOCKdNEdPeITSAdREcRAIGHTeNNOeTUMdELAeSSeTCHEDdINGdOKEgSeNGcUDYbUcAcBGROUPdJOI
  NEDiRdLIMATEfNEARdSCRIPTeETeTITUTEjIONcCCEEDhSdKEDcEcHURcITcKUeNcMdMATIONcNdDANESEdGeLASSEScPERS
  CRIPTgETfVISEdRALINEARcRdANGdFACEdROUNDcSPENSIONcUbVARITAdSTIcETLAYAbWcAdSHcEATdETcIRLbYLLABICSg
  LEcMBOLg-1gScNAGMAdCHRONOUScRIACaTbAcAdLUJAcBdLEdULATIONcCKcEcGcHcIdLeEDcK4cLINGdLeYcMdILeNGcNdG
  ENTeUTdNEDcPEcRdGETcTdWEELcUcVcWbCcHEHfEHbEcARDROP-SPOKEDeScDUNGcEcHdEHcLEGRAPHeIAePHONEdISHAcNd
  NISdSeEdTeHdUcRMINATORcSHdSERAcTdARTIMORIONgOSdHdRASEMEgIMOUcUAENfQcXTbHcAdAdLdMdNcEdEdHdMAdNdRM
  OMETERdSPIANdTAcIdEUTHdIdNdRDfSeTEENfYg-SECONDcOdNGdOdRNdUGHTeSANDiScREADeEf-DdOUGHcUdMBfSdNDERc
  WAeAbIcBETANcCKcEcGERdHTfLY-CLOSEDcKEUTg-CIEUChKIYEOKhPIEUPhRIEULhSIOSdHAYAeYcLdDEdEdTINGcMEeScN
  YcPcRdONIANcTdAdLOcWNbLAcEcHAdEdIdOcIcOcUbOcDOcGETHERcNALdEe-1f2f3f5f7dGUEdOScOdTHcPd-LIGHTEDdBA
  RcQcRCULUSdTOISEcTdALcUCHINGcWARDSbRAdCKdFFICdINdNSMISSIONfPOSITIONcEEdMOLO-1dNDdSVETLAYAcIANGLE
  i-HEADEDgULARdCOLONdDENTdGRAMMOSdPLEdSEMEeIMOUcOEZENIANdKUTASTIdMIKONdPICALcUCKdEdNKbScAdDIdTAcE
  dEcHAdEeGcIcOcUbTcAdAcEdHeEHcHAeAdEdIdOcIcOcTAbUcAREGcG2cKcMcOTcPcRdBANdNeEDeSTILEdTLEbVRIDObWAc
  EdLFTHSeVEdNTIETHjSfYg-EIGHTHhFIVEiOURhONEhTHREEiWOcOd-CIRCLEeHEADEDbYPEe-3aUb-SHAPEDb2bAbBbCbDc
  ATTAbEcXcZbHbIcGHURbKcRAINIANcUbLUbMcBRELLAcUMbNcDERfBARfTIEcIFIEDdONdTdVERSALcKcNbObPc-POINTING
  cADHMANIYAcPERcSILONcTURNcWARDgSbRc2cANUScUdDAbScEdDcHbUcEbYaVbAcAcHcNEcREIAdIAfNTfTIONcSIScVbEc
  DEdICcEcHcPcRSEdTICALiLYdYcWbIcCTORYcDEOcETcNdEeGARcRAMAcSARGAcYObOcCALICcICEDeINGcLAPUKcOcScUcW
  ELbRACHYbUcLGARcRbYcSOKOaWbAcAcEcITINGcLKdLcNINGcPcSALLAMdLAcTCHdERcUcVEeSdINGdYcWd-AYIN-RESHcXd
  INGcYbCbEcARYcEcIdGHTcOcSTe-CREEeERNbHALEcEATdELfCHAIRcITEcOLEbIcDEe-HEADEDdTHcGGLYcNDeOWeUdEdKI
  NGcTHeINeOUTbOcLOSOcMANfScNcOdDeS-CREEdLcRDdKbRENCHcINKLEDhSdSTdTINGbUcEcObYNNaXbAcNbEcHbIbObVAb
  WbYAcEaYb-CREEbAc-YOcAcEcHcJdURVEDICcKcNGcPcRcTdIcWNcYbEcARcEcHcLLOWcNdISEIcOdRINHIEUHcRdIdUcSIE
  UNGi-PANSIOSjSIOSdTUbFESISbHEbIcDDISHcEcGcNcTcWNbNbOc-IdYAfEcDdHcOcQcTbPOGEGRAMMENIbRbUc-IdYEfOc
  JcMcOPcQcScTcWOQbWAbYcAaZbAc7cAcHcINcLcPYATAYAgOYcTAcYINdNbEcEcMLJAcNcROcTAbHAdRcEdEcIdVETEcOcUb
  IcDAcGZAGcZ2bLAbOcOcTbUc5cPcRbWJbYbZAcEcIdETcOcU"

/-- All other words. -/
def rareWords : String :=
  "aCCEEcHdAeAdEEdHAfAeEfEeIeOeUdIdOdUcIcOcUbDbEALCcCEKcDIcEBdVcIRTcLEBRATIONdSIUSdTICcNdTURIALcONG
  CHIEUMCHIEUCHmIEUClSIOSmSANGCIEUCqSIOScPcR-WAdEKeMONYeScVITUcXbGJbHADeAdINSdKMAdMeILIgONeKOdNeGf
  EdPeTERdRACTERSdTTAWAdUdVIYANIdXcEEKeMeRINGeSEdIKHANgEIeNAPdLNUdNdPdQUEREDdRRIESfYeYdSTfNUTdTdXc
  HAdIMcICKfENdEUCH-HIEUHiKHIEUKHdKIdLeDRENdMeEdNGeOOKdPMUNKdRETeONdTUEUMCHIEUCHjIEUCiSIOSjSANGCIE
  UCnSIOScOAdCOLATEdEdKEdPeSTICKSdRASMIANdTdXdYcROAeNONdYSANTHEMUMcULAdOePeTeXdPdReXdXcWAdVcYdPdRe
  XdTdXbIEdPdTdUC-IEUNGgPIEUPgSSANGPIEUPdXcIcNdEMAdNABARcRCULATIONfScTdATIONdIcVILIANcXbLcAIMdMSHE
  LLdPPERfINGdSSICALdWcEAReVERdF-1cIMACUSeBINGdNGINGdPBOARDdVIScOSENESSfTeUREdVERdWNcUB-SPOKEDeSdS
  TERh-FINALbM001e4d12Be3e5e7e9d21e3d33d44e6e9d58d66d75Be6e8d94c107d12e4c301bOAdSTERcCKROACHeTAILd
  ONUTcDAcENGcFFINcINcLLeISIONdORdUMNcMBeINATIONgEDdETdINGdMONdPAREfSSeLEMENTgTEDfIANCEeONENTj-001
  eRESSEDiIONeUTERScNdCAVE-POINTEDiSIDEDdFETTIeLICTeOUNDEDeUSEDdGRUENTdICALdJUGAhTEfNCTIONdSECUTIV
  EeTANCYdTEMPLATIONfNTIONeINUATIONhINGhOUSeOUREDeRACTIONgRIETYdVENIENCEfRGINGcOKEDeINGdLcPdPER-2d
  YeLEFTcRALdKdNISHdONISdPORATIONeSEdRECTfSPONDScTcUCHdNCILeTERBOREhSINKfINGdPLEcWBOYcXbRcABdCKERd
  YONcEATIVEdSCENDOcOCODILEdISSANTeXdPdSSBARcUCIBLEi-2fFORMdTCHdZEIROcYSTALbSIbUAMcCUMBERcLTIVATIO
  NcOdXcPCAKEdIDOcRdLEDeINGdRYdSIVEdXcSPdTARDeOMERgScXbWAAcEdORTHcIIcOdObYAWdYcCLONEcLINDRICITYcPE
  RUSdRIOTeO-MINOANcRdENAICdXcXaD001d8Ad9c27Ad8c31Ad2d4Ad5c46Ad7d8Ad9c50Ad1d2Ad3d4Ad5c67Ab2bAADHUd
  SUcEGdNGcG3dALGAeZdBASINNAdScHdYAAUSHj-2cIdNGdRcLATdDAdETH-RESHcMdARUdPcNCEReINGdGOdTAYALANcRGAd
  TcSEIAcVIDeYANIcWBcXcY-NIGHTbC1c2c3c4cHEcSbDcAPdTdXcEEdPdXcHEeEdIdUcIEePeXdPdTdXcOAdPdTdXcUOePeX
  dPdRXdTdXcWAbEADdFcBITcCAYEDdEMBERdIDUOUSeSIVENESSdORATIVEdRESCENDOcELdPLYcFECTIVENESSdINITIONcH
  IcIcKdAcLETIONdICIOUSeVERANCEhYdPHICdTcNARIUSdGdNENdTISTRYcPdARTMENTdTHcRBITSAdELICTeTf-HIDETcSC
  RIPTIONdERETfTdIeGNdKcUNGcVELOPMENTcXcYTEROShUbHcAAeLUdDHEdLeATHeETHdMEDHdRMAcEEcHAdEeEdIdOeOdUc
  IdIcOOdUcUbIAERESIS-RINGiZEDdMETEReONDSdRGONdSTOLIdTONONcEPdSELdXcFATdFERENCEeICULTIESjYdTOGGOSc
  GITSdORGONdRAMMAcLcMENSIONjALdIDIAeNISHMENTdMINGcNGcPdLOUNdPERdTEcRGAcSABLEDdCONTINUOUSdGUISEDdP
  ERSIONeUTEDdSOLVEi-2dTILLfNGUISHeORTIONcTdTOcVERGENCEeSdIDERSgSeNGdORCEcXcYAbJcAbLcEEcHAdYAcIcOc
  UbMbNAbO-OcAcDEKATAdOcGRAcINGdTcKMAIcLIUMdPHINcMAINdINOcONGcPcROMEdUcTS-1g2h3i4j5k6l7m8l8k7l8k8j
  6k7l8k8j7k8j8i5j6k7l8k8j7k8j8i6j7k8j8i7j8i8h4i5j6k7l8k8j7k8j8i6j7k8j8i7j8i8h5i6j7k8j8i7j8i8h6i7j
  8i8h7i8h8g3h4i5j6k7l8k8j7k8j8i6j7k8j8i7j8i8h5i6j7k8j8i7j8i8h6i7j8i8h7i8h8g4h5i6j7k8j8i7j8i8h6i7j
  8i8h7i8h8g5h6i7j8i8h7i8h8g6h7i8h8g7h8g8f23h4i5j6k7l8k8j7k8j8i6j7k8j8i7j8i8h5i6j7k8j8i7j8i8h6i7j8
  i8h7i8h8g4h5i6j7k8j8i7j8i8h6i7j8i8h7i8h8g5h6i7j8i8h7i8h8g6h7i8h8g7h8g8f3g4h5i6j7k8j8i7j8i8h6i7j8
  i8h7i8h8g5h6i7j8i8h7i8h8g6h7i8h8g7h8g8f4g5h6i7j8i8h7i8h8g6h7i8h8g7h8g8f5g6h7i8h8g7h8g8f6g7h8g8f7
  g8f8dTED-LhNhPcUBLE-ENDEDhLINEDeTdGHNUTcWNSCALINGeWARDcXbRACHMASdFTINGcEAMYcILcOMEDARYdOLINGdPe-
  SHADOWEDeScUMSTICKSbUB2cCKcDAcGUDcHcMdPLINGcN4cOdXcPdLOYANdONDIUScRd2dATIONdXcSHENNAdKcTdIEScXbV
  AcDcISVARAcOECHELNOKRYZHEVAYAeTOCHIEcUMYAbWAcObYANcNAMICbZAAdYcHOIcITAcJEcWEcYAYdIcZAdEdHEaE-1c2
  cMAILb001d8Ad9eAc10d6Ad7eAd8c20Ad1d8Ad9c34Ad6bABHADHcDHADHcMHANCHOLLcRLYdTHLYcSEbBEFILIbDDcINdTO
  RIALbEBEEFILIcHcKAAcNcYANNAbGGScIRcYPTIANbHWAZbIGHT-THIRTYfIETHcSbJECTbKAMdRAcSdTREPTONbLAFRONcB
  ASANcECTRICALgONICSdVATORgUSeEN-THIRTYcFcIFcLIPSEfTICcTcYMAICbMBEDDINGeLLISHMENTdLEMdROIDERYcPHA
  TICbNARMONIOSeXIScCLOSURESdOUNTERScDEAVOURePdINGdOFONONcLARGEMENTcNIcOScQcTERINGdHUSIASMdRY-1cUM
  ERATIONbO-EUdOdUcHcLdHXcMcTbPAdCTcEGERMAdNTHETICcOCHbQcUIANGULAReDbRGcIScROR-BARREDcSbS-1d2d3dTE
  cAdSAcCcH16d21dE3cOcScTIMATEDiScUKUUDObTBcHELcNAHTAcXbU-AdEeOeUdOdUcLERcRO-CURRENCYePE-AFRICAbVE
  NINGdRGREENeYbXCELLENTeSSdHANGEdITEMENTcHALEeUSTIONcISTfScPLODINGdONENTdRESSIONLESScTINGUISHERdR
  AfTERRESTRIALbYANNAcBEYFILIcEBROWdGLASSESdLASHEScYYaF001eAd2c13Ad4c21Ad2c31Ad2d7Ad8eAd9c45Ad6eAd
  7eAd8c51Ad2bAAFUdIdMAEcCE-1dINGSdSIMILEdTORYcHRENHEITcIBdHUdLUREdRYcJcLAFELdLENcMcNEROSISdGcPcQc
  RcSTcTdIGUEcYdANNAbEAReFULeNcBRUARYcEMdNGcHUcIcLLOWSHIPcNCERcOHcRRISeYcSTIVALcTHcUFEUAETdXbFIcLb
  HTORAbIFTHScGHTdURE-1cIcLLEDfR-1cNGER-POSTgEDgNAILSdITEcPcRECRACKEReWORKiSdIcSHEYEeINGdTEDcTdZPA
  TRICKcVE-LINEfTHIRTYcXbLcAdG-1eSdMEeINGOdSHdTNESScEUR-DE-LISdXEDeUScIGHTcOORPLANEdRETTEdWERSeING
  cUSHEDbMbOGdGYcLDEDdLYcNDUEdGMANdTcOLdTBALLePRINTSeSTOOLcPcRCEfSdEHEADdKEDeINGdMATgTINGeEEeSdTEe
  UNEeY-FIVEcSTERINGcUR-LINEfPER-EMfSTRINGfTHIRTYbRAGMENTeRANTdMESdNCeKScEEZINGdTBOARDcICATIVEdEDe
  ScONT-FACINGbScIbUAcELdTcJIcLLNESScNERALcPcRXcSAdEcTcXbVS1d4bWAAcEbYcAcPcTcXaG001d6Ad7eAd8c11Ad2
  c20Ad1d6Ad7c36Ad7eAd8c43Ad4d5Ad6b2bAAFUdHLAAcDOLcGcIcLAMcMdALeNdLeAcNDAdMAcPPEDcR3dDENdLICdMENTd
  ONcSHANcTcUNTLETcXbBcAKURUNENdYIcENdTdUXcIEEcONbCANbDANbE22cBAdOcDEdOLAcEMcMdINATEfIcNdERICdIEeK
  IeTIVEdTLEcOMETRICcRdMANcSH2eUdTUREcTdAcXbGcAAdPdTdXcEEdPdTdXcIEePeXdTdXcOTdXcUOPeTeXdPdReXdTdXc
  WAeAdEeEdIbHcAAMAEdINUdMALeMAdPdRAEdYNcEEdTdUAEGHEUAEgRAEeGHENhUAEMeNeXdYScIdMELcOMdUcUcWAcZbIBA
  cDIMcEdPdTdXcFTcGdAcMEL-HETHcNIIcPcR3dAFFEdLeSdUDAAcSALcTcXbLAdSSEScEICHcISSANDOcOVEfSdWINGbNcAV
  IYANIbOAdTcBLINcGGLEScINGcKcLFERdUBCHIKcNGcOdDcPcRAdGOSYNTHETONfTERIdILLAdTeHMIKONcTHICcXbPAbRAD
  UALgTIONdFdINdMMAdPESeHEMEfICdSPdTERdVE-ACUTE-GRAVEgMACRONfYARDcEATNESSdGORIANcIMACINGcONTHISMAT
  AdWINGcUbSbUAdNdRANIeDfEDNESSfSMANcEIcGcIDEdTARcJARATIcMcNJALAcOdPdTdXcPcRAMUgTONdMUKHIdUNeSHdXc
  TcXbVANGbWcAAcUbYcAdAdNcEdEcFUcIcOcUaH-TYPEb001d6Ad7bA-1e0dHAcAMdRUcDEScEGLcFUKHgAcGLeAZcIdRCUTd
  SdTUcLBERDdF-1dOdQAcMdBURGERdSAeTERcN-AKATdDBAGgLLeLESeSHAKEdGdIFIdUNOOcOcPdPYcRBAHAYdDNESSdKLEA
  NdMONICcSERcTAFdCHINGdEdHIdRANcUPTSTIMMEcWJcXcYdANNAbBASAf-ESASAbCbDRbE-1dGOATcAD-BANDAGEeEDePHO
  NEeSCARFdR-NO-EVILeINGdVENLYcDGEHOGcEIcIdGHTdSEIcKUTAARUcLICOPTEReXdLSCHREIBERdMcMPcPcRAEUMdBdME
  SeITIANdUTUcTAcXdAGONfRAMdIFORMcYTbHEdEcIcOcUcWEeEdIcYAeAdEeEdIdOdUbI-1dREScBISCUScDEeTdINGcEROG
  LYPHICdUH-MIEUMgNIEUNgPIEUPgRIEULgSIOSdXcGH-HEELEDfLOWfSPEEDcKINGcNDUcPPOPOTAMUScSTORICcZBbKbLcA
  PdTdUdXcEdPdXcIEePeXdPdTdXcOdPdXcUdOePeXdPdReXdTdXcYdPdReXdTdXbMcAdPdTdXcEcIdEePeXdPdTdXcOPdTdXc
  UdOePeXdPdReXdTdXcYdPdReXdXbNAPdTdUdXcEdPdXcIdEePeTeXdPdTdXcOPdTdXcUBdOeXdTbO-1cAcCHOcIcKAcLLOWc
  McNEYfBEEcONdPdRUdUcRAdIZONTAL-00-00m1-00m2-00m3-00m4-00m5-00m6-00kLYcSPITALcTAdELcXcYbPAcWGbRYV
  NIAbTcJcScTAbU-1cANdRADDOcBcIITOcKcL2cNGeARIANcOdPdTdXcRANcSHeEDcTcVAbWAdHcEEcIcOcUbXAdPdTdXcEdP
  dXcIdEePeTeXdPdXcOdTdXcUOPeTeXcWGbYGIEAfIAcPODIASTOLEcSTERESISbZGcTcWdGcZdPdZeGaI-1cAdRAEAcBEAMc
  EUcIcOd-IcUcYAe-OeEdEeOdOdUb001d5Ad6d9Ac10eAd1eAd2bANGcUDAbBIFILIbCELANDIC-YRcHADINdIMATOSdOUcON
  bDcEOGRAPH-4E00m2DmA4k518Dl21Dm4Dm72mDDl3CCmF3l408m39l5B6l8F0l91Am29lB57m89lDE6lF8Ck624Bm95l307m
  55l557m99mB0l620l708n9m2ClE80lF14k70B9l121l51Fm33l6D7l981lA7AlD42k89E3lCA9lD70k904Al14DbEPcTcUNG
  -CHIEUCHhIEUCgHIEUHgKHIEUKHgMIEUMgPANSIOShHIEUPHhIEUPgRIEULgSIOShSANGKIYEOKgTHIEUTHhIKEUTcXbFcIN
  bGGWSbIYANNAbJbKARAbLc2cIMMU3cUTdUYANNAdYeANNAbMAALAcIDIARGONdFONONeTHORAiONdN3dSEOScNcPdERFECTU
  MfIALbN-ALAFcAPcBOXcCHdLUDINGdOMINGfPLETEdREASESfMENTcDdIANeCTIONeRECTdUSTRIALcFLUENCEcGWAZcHALE
  dERENTcINGUcKcNdNdOCENCEcPUTcSCRIPTIONALdECTeRTdTRUMENTALcTERCALATEfESTfIORfLACEDgINEARgOCKEDfPO
  LATIONfSECTINGgYLLABICdIcVERTEBRATEdISIBLEcYdAbODHADHcNGcRbPbRBcIcON-COPPERcUUYANNAdYANNAbS-PILL
  AcAKIAdZcEN-ISENcHMAAMcLANDcOLATEdSCELEScSbTEMcSbUJAbWAZcNbYANNAcEKbZcAKAYAaJACK-O-LANTERNeScHcI
  NcLLeAJALALOUHOUcNUARYcPANcVANESEdIYANIcWcYINdNbEANScGOGANcRdAeNdUSALEMcUbHAAdMdYINcOdXbIAcEdPdT
  dXcGSAWcPcTcXbJEdEcIEPeTeXdPdTdXcOPdTdXcUOePeXdPdReXdXcYPdTdXbOAcINTScNAdGcPcVEcXcYOUSdSTICKbUDE
  O-SPANISHdGEdULcEUIcGGLINGcLYcNEdOcOdPdTdXcPdITERcRdXcSTIFICATIONcTcUcXbYcPcRdXcTcXaK001b2bA-1e0
  dKEcABeAdCUdFUdIdNeKUUdVcCHKAcDd5cFAcIBdRIdTHIdVcKABATcMd2d4cNAeKOdGAROOeXIdTAJAcPALdOcQcRdANeTT
  OdORfANfIIdSHANAcTdAVAgSMAdHISTIcUBdNeAdVcVcWBdIdVcXcYANNAcZAKHbCALbE-1cAAEcBcEBdNGdSUdVcFULAcLV
  INcMBANGdPHRENGcNATcOWcPcRETcScUAEfMfRIfTMEUNdKAQeEUTNDAdOTdPeUQdSEUXeHEUAEPdYEUXcVcXbHABdFdKASS
  IANdMILOdNeDAeGdROSHTHIdVcEEdTHcHOcITcMUcOJKIdMUTdNeNAdTdUcUdATdDAMfWADIdENf-LUEcWAIcZbI-1cABdVc
  BcCKcEdEMdPdVANdXcHcIdZHcKAKUIcLLERcMONOcNDERGARTENdSHIPcQcROeGURAMUeMEETORUeWATTOcSALdHcTEcVcWd
  IFRUITcXcYEOK-CHIEUCHhHIEUHhKHIEUKHhNIEUNhPIEUPhRIEULhSIOS-KIYEOKhTIKEUTbKEdEcIcOcUbLcAcITONcYUC
  HENEPOSTOYANNYhPOVODNAYAnYhVOYbNEELINGcOBSdTbO-1dKIcAdLAcBdYLAcETcGHOMcHcINIcKEdOcMBUcOBdMUUTdPO
  dVcPcQNDONcRANICdONdUNAcTcUFISMAcVdUUcXbPAHdNdRAQcENdUXcOQbRAdTIMAhTAgOKOUFISMAhYPORROONcEMASTIc
  ONOScYUKdZHEVAYAbTbU-1c7cAdBdVcBcETcFISMAcGcNDDALIYAdGcOdMdQdXcPdNAYAcQcROONEdTdUNIeZEIROdXcSMAc
  UHcVcXcZHIbVbWAETdYcBcIIcMcOdOcU318cVbXAAcEdEcIcOcUcWAeAdEeEdIbYAAdTHOScEcIcLISMAcOcUdRIIaL-SHAP
  EDcTYPEb001d2Ad3d6Ad7b2b3b4b6bAAIdMUdNeAEcBdATdELdIALIZATIONdOURINGcCAdKdROSSEcDDERdYcEVcGUeScHd
  SHUcJANYALANcK-003f20g1g5f30f62f80f92e130f42e210g9f25g8f38f65e343g7f83f90e441g9f50g7f70f83f90g2g
  5e550e608f17f36f48f68e724f49dHANdKHANGYAOcMADHdBDAdDcNDdEdGUAGEdTANGeERNcPAQcQcRIdYNGEALcTdEdIKc
  UdGHINGdJdKAZdLAcXcYdARbCIbDc2cANbEADeINGdFYdNINGcDGERcEKcFT-HANDjEDfLIGHTEDfSIDEgTEMcGETOSdIONd
  ScIcLETcMOIeNcNGTH-1cOdPARDcPdCHAcSSeERcUAEMfPdMcVEL-2dITATINGcXbFbHAGdVIYANIcEdEcIIcOOcUcYAbIAB
  ILITYcBERTYdRAcCKINGcEEdPdTdXcFEdTERcGATINGdHTHOUSEcIcLdITHdYcMBeSeUdEdITfATIONfEDdMU2f4cNE-1f3f
  7f9dGSAdKEDeINGcONcPSTICKcQcScTdHdRAcVREcXcZARDbLAMAcEcHAcLbMbOAcBSTERcCATION-FLOORPLANEjWALLPLA
  NEgVEcDESTONEcGdOTYPEdRcLLeIPOPcMKAdMAEcNG-BRANCH-ARmHAGALLmMADRmOSSmSOLmYRfLEGGEDdSUMcOKdNdPEDc
  PcRRAINEeYcSdSLESScTdIONcUDLYeSPEAKERdREcW-MIDeREVERSED-9cXbREcIcMcObUAEPcBcHURcIScNGSfIcOdPdTdX
  cPcRdXcScTcXbWAAcEcIdIcOdObXbYAcCIANcDIANcGISMAcINGdTcPcRXcTcXcYaM001Ad3eAd5d6d7d8d9c10eAd2eAd4d
  5eAd6Ad7Ad9c20d1d2eAd4eAd6d7d8eAc30d1eAd3eAd5d6d7d8d9c40eAd2d3d4d5d6d7d8d9c50d1d2d3d4d5d6d7d8d9c
  60d1d2d3d4d5d6d7d8d9c70d1d2d3d4d5d6d7d8d9c80d1d2d3d4d5d6d7d8d9c90d1d2d3d4d5d6d7d8d9b100d1d2d3d4d
  5d6d7d8d9c10d1d2d3d4d5d6d7d8d9c20d1d2d3d4d5d6d7d8d9c30d1d2d3d4d5d6d7d8d9c40d1d2d3d4d5d6d7d8d9c50
  d1d2d3d4d5d6d7d8d9c60d1d2d3d4d5d6d7d8d9c70d1d2d3d4d5d6d7d8d9c80d1d2d3d4d5d6d7d8d9c90d1d2d3d4d5d6
  d7bA-1c2cAIdYYAAcCRON-ACUTEhBREVEhGRAVEcDUdYAcEKEUPdLEEdMBGBIEEeGBIEEeKPENeVEUXdNJETeYIcGEdICdNE
  TeIFYINGcHAJANIePAKHdHAdJONGcIDENdKUROdLBOXdMALAIeUANdRUdTAIKHUdYAMOKdZEcKASARcLAKONdEERIdTESEcM
  MOTHcNACLESeTdDAICdGALAMeOdICHAEANdNAfZdSeUAEeYONdTELPIECEdUALcOcPLEcQAFcRCASITEfTOh-STACCATOeHf
  ENdEdKSdRATANeIAGEeYINGdTIALdUKUdWARIdYcSARAMdCULINEdHFAATdORAdSAGEeINGdUcTdEeRIALSdRIXdTOCKcUcX
  dIMAfIZEcYANfNAbB2cAAKETeRAEdQcEEKEETdRAEdURIeXcIRIEENcUAEfMdEdOeQdUbCHANbDbE-1dMAcCHANICALeIKcD
  dICALfINEcEMUdTORUcGALIePHONEeTONcIZIcLIKdODICdTINGcMBERSHIPdOcNDEeUTdOEeRAHdScRGEdIeDIANSdKHAdO
  ITICdPERSONcSIdOdSENIANcTAdEGeKdOBELUSdRETESeIAfCALeOcUNJOMNDEUQdQcXcZZObFAAcEUAEeQeTcIEEdYAQcOb
  GcAdPdTdXcBASAgQdEeEeNeUNdIeEEdOeFUMeOdUcEdPdXcIEeXcOPdTdXcUdOePeXdPdReXdTdXbHcZbI-1cAOcCReOfBEf
  SCOPEcEdPdUM-CHIEUCHhIEUCgHIEUHgNIEUNgPIEUP-SIOSgRIEULgSSANGNIEUNlSIOSgTIKEUTdXcIdNcKRIeONdURONc
  LdKeYdLeETcMEcNIBUSeDISCeMIZEeSTERdNANdUS-OR-PLUSdYcPcREDdIeBAARUcSRAcXbKPARAQbLbMSPbNYAMbO-1cAc
  DEeLfSeMeRNeSTYdIeFIER-10dULOcHAMMADcKHASSAScLcNEY-MOUTHdGKEUAEQdIdOCLEeRAILeSTABLEdSTERdTIEENcO
  DdMEUTePUQdSE-CREEcRNINGdPHOLOGICALdTUUMcSQUEfITOcTdORCYCLEfIZEDfWAYcUNTfAINScVEeDeMENT-DIAGONAL
  jHINGEeSdIEcXcYAIbQbRcACHNOhTIKHAYAgYcObSbTAVRULIbU-1dGAAHLAAcAScCAADcEdNcGScINcKHAdKURUNIdPHREN
  GcLTANIeIfOCULARfSETcMcNdAHdSUBcOdMAEdPdTdXcPcQDAMcRdEdGU2dXcSdHROOMcTdHALIYAcUSIKATOANdVUZHAKKU
  cXbVEUAENGAMcIcSbWAAcIIcOdObXbYPcTcXbZaN-MU-MO-1b001c18Ad9c25Ad6c33Ad4eAd5eAd6d7Ad8bA-1d2c4cAIdK
  SIKYAYAcBATAEANcGARdRIcILdRAcKcMcNdDeINAGARIdGMONTHOdOdSANAQcOScPcSALIZEDcTTILIKcUdDeIZdSEATEDdT
  HScXdIANcYcZARbBAdPdTdXcHcIdEPeXdPdTdXcOdPdTdXcSPcUdPdReXdTdXcYdPdReXdTdXbCAcHAUbDcAANGGEUAETdTd
  XcEPdUAEREEeTeXdXcIAQdDAdEeXdPdQdTdXcOMBUdNdPdTdXcUNdPdReXdTdXbE-1d2dKOcBENSTIMMEcCKTIEcEDLEcGAT
  IONcMKAcNANOcPcQUDAAcRDcSSUSdTINGcTWORKEDcUMEdTERcWAcXbFbGAAIdHdIdNeGUdPdQdTdXcEADALdPdUREUTdXcG
  dAAfMAEePdEEEEfTeUfAEfXdUAfENgSHAEeEETeMeOMfNfQePeRAEdWAENcIEePeXdIcKAAMIePeQdEUAEMhQfRIfXdIEEeN
  DIdUENZEUMeMeNePdYEEcOOdQdTdXcUdAEfTeNdEdNdOeTeXcVEcYEbHcAYcJAcUEbI-1dTEc2cAcBcEdPdUN-CHIEUCHgPI
  EUPgRIEULgTHIEUTHdXcGGAHITAdIDAESHgMINcHSHVASAcKAeHITdHAHITcMcN9dE-THIRTYdJAdTHcONcPcRUGUcSAGcTd
  REcXbJAAdPdQcEEEEdUAEMgNAeTcIEeEePeTeXdPdTdXcOPdTdXcUOeXdPdQAdReXdXcYdPdReXdTdXbKAdUcINDIcOdMbLc
  001e5Ae6d17Ae8cAUbMbNAAcBSPcEcGdAeAdIeIdOeOcHAcOcYAbO-1cAcDEcKHUKcMINALeSMAcNd-BREAKINGeJOINEReP
  OTABLEdFORKINGcONUcPcRDICdTHEAST-POINTINGfWESTcTEBOOKdTOcVEMBERdILEcWCcXcYbPAcLAbQAcIGbRAPdTdXcE
  dPdSdTdXcOdPdXcUdAdPdReXdTdXcYdPdReXdTdXbScAcENdUAENcHAQdEEdUEfTeOPcIEEPfTcOMcUMdNdOTbTAcENdUNGB
  AcHAUcIEEcOQPENcSAeUcUdJdMcXAdIVbU-1c001d10Ae1fAe2e8Ae9d22AcEcLcMdBERSdEROcNAVIKfUTcOdPdXcPcRdXc
  UNcXbVbWcAAcEcIdIcOdObYAEMAEdHdJdNcCAcDcENcIAKENGdEePeTeXdNe-DOdRdXcJAcOAdNdOdTdXcUEdNdOePeXdPdT
  dXcWAbZAPdQdTdXcEdUMdXcIdEePeXdPdTdXcOPdXcUdNdOeXdQdReXdXcYdPdReXdTdXaO-1cEdOcOd-IcUcYAeEdEeOb00
  1eAd2d5Ad6eAd7c10Ad1d9Ac20eAd1d4Ad5eAd6d9Ac30eAd1d3Ad4d6Ad7c50Ad1bABOAFILIcKbBcELOSeUScJECTcLACH
  KOeKOcOFILIdLeScSERVERdTRUCTIONbCcCLUSIONcHKOMcLOCKcRcTAGONhALdETdOBERePUSbDENbEKcRcYbFFdICERbGc
  HAMcREbJEONbKARAbLEbMALONcETcISSIONbN-OFFcAPcE-LINEePIECEeTHIRTYeWAYdSELFcIONcKARcSUbOBOOFILIcHc
  MUcNcYANNAcZEbPEN-CIRCUIT-OUTPUTfHEADEDfOgUTLINEDfPdRATINGcHIUCHUScPOSEdRESSIONcTIONbRANGUTANcCH
  IDcDERcE-2cIGINdYAcNAMENTSeTEcTHODOXfGONALbSAGEcCcMANYAcOKAbTHALfANdERfScSECHKAcTdERdOMANbUNKIAc
  TBOXdERdLINEbVERHEATEDeRIDEeSTRUCKbWLbXEIAIbYANNAcSTERbZaP001eAd2d3Ad4b2bAA-PILLAdIdRAEfMdSENTOd
  TUcCKAGEeINGcDDINGeLEdMAcGERdODAcHdAWHcINTBRUSHdRTHRAdYANNOIcLATALIZATIONjEDdETTEdKAdLASfWAdMSeY
  RENEdUTAcMAAEHdENENGePETdINGKALdPHYLIANdSHAEdUNGKAHcNAELAENGeMdCAKESdDAdEULEUNGdGeHULUeKATfONeLA
  YARfONGeRANGKEPeWISADdOLONGeNGONANdSIOS-KAPYEOUNPIEUPiPIEUPdYAKRAfNGGAeECEKeIKUeUKUcOcPERCLIPjSd
  YRUScRACHUTEeGRAPHOSjUSeKLITeLLELOGRAMePHRASEdERENdICHONdKdROTdTHIANeIALLY-RECYCLEDdUMcSANGANdEQ
  dHAEeTAdSEDfNGEReIMBANGfVE-PULL-DOWN-OUTPUTnUP-OUTPUTePOgRTdUQcTdAKdHAKKUfMASATdTYcUdKdSEcVIYANI
  cXcYdANNAcZERbCbDcFcIbEACHeOCKdNUTSdRcDESTRIANScEIdKINGdMdPdSHIdZIcITHcNETRATIONdGKALeUINdIHIdNA
  NTeYdSIVEeUdTAGRAMfTHLONcORTHcRCUSSIVEdEVODKAdFECTUMeORMINGdMANENTeITTEDdNINdSEVERINGePECTIVEdTH
  OcSdETAcTdASMAfTIgOKOUFISMAdRIcUTeAEbFbGbHcAARKAAdBdGS-PAdISTOSdMdNdSE-AgBgCgDgEgFcEEcIEUPH-HIEU
  HiSIOSiTHIEUTHdLIPPINEeOSOPHERSdNTHUcNAEKcOAdENICIANdLUSdNEScRASEcUdNGdTHAOcWAbIANOdSTREeUTORUcC
  KETeUPdTUREcEEQeTdPdTdUP-KHIEUKHgMIEUMgNIEUNgRIEULl-PHIEUPHgSIOS-CIEUClPIEUPlTHIEUTHhSANGSIOSdXc
  KOdURUcLEdLcNARBORASeTAdCHEDfINGdEeAPPLEcPINGcR2dACYdIEENcSCESdELEHdTOLcXcZZAeICATObLACARDdKdNCK
  eETeTdSTICSdTEdYGROUNDcDcEADINGdTHRONcHAUcOWcUdGdKdMeEDdNGERdRALdS-MINUSbNEUMATAbOAcCKETcDATUSdC
  HASHIEMdVERTKAcETICeRYcINTOfScKRYTIEcLKULIZMYdNAYAdOdUPOVODNAYAcNDOcODLEdNcPCORNdPEReINGcRRECTUS
  dTABLEcSEIDONdITIONSdTBOXePOSITIONcTABLEdTEDcUCHdLTRYdRINGcVODNYcWDERgEDdERScXcYbPAcMcVbRcAYERcE
  CEDEDeIPITATEdFACEdNKHAdSCRIPTIONeENTfTeSEDdTZELdVIOUScINCEgSSeTSdVACYdZNAKcOBINGdFOUNDdGRAMfESS
  dHIBITEDdJECTIONiVEhORdOFdPELLERfRTYeORTIONALdSERPINAdTOSfVARYSdVEbScALTERcIFISTOLYGISMAiPARAKAL
  ESMAiSYNAGMAdLONbTEcHAHAbU1cACHUEdQcBdLICcCKcFFEDcMdPcNCTUSdGeAAMcOdPdXcQcRdIFYeTYdNAMAdSEdXcSHI
  NGePIKAcTNAYAdREFACTIONcUTcXcZZLEbVbWcAAcIIcOOdYbYcPcRdXcXbZaQ001bAAFUdIcDMAcIRTHRAcLAcPHcQcRNEY
  cUcYbEEcTANAbGAbHAdAdUcEdEcIcOdPHcUcWAeAdEeEdIbIEdPdTdXcFcPcTcXbNbOAcPdAcXbPbUADCOLONdNTITYdTERN
  IONcBUTScDDISAcESTIONEDcFcICKdNARIUSeCUNXeDICESIMAeTESSENCEfILEcKcOPdTdXcPcRdXcSHSHAYAcTcUVcXbWA
  dAbYcAdAcEdEcIcOcPcRdXcTcUcXaR001d2Ad3eAd4c10Ad1d6Ad7bA-1d2dKARAc2c3cAIcBcCCOONcDIOACTIVEcEMcHdI
  MAHUiMdMATULLAHcIdDAeOdLdNBOWcKHANGcMBATcNcPISMAcQcSHAdOULdWADIcTAdIOcUcVNOcXcYANNAcZORdSEKAbBAS
  AbE-1cADINGdHMUKdLGARh-2cCEIPTePTIVEdITATIVEdORDERgINGdREATIONALdTILINEARdYCLEDcFERENCEcGIAf-2eO
  NALeSTEREDdULUS-2cIdDdWAcJANGcLAAeTIONALdEASEdIGIONcMEDYdINDERdUcNTOGENcPdEATEDdHeAdLACEMENTdRES
  ENTcREKANeNGGANcSH-AYINj-DALETHdIDENCEeSTANCEdOLUTIONdTRICTEDfOOMdUPINUScTORTdREATcUcVERSED-SCHW
  AdIAdMAdOLUTIONcXbGYINGSbHcINOCEROScOTICbI-1cALcCEMdKSHAWcELdUL-CIEUCgKIYEOK-HIEUHgMIEUM-HIEUHmK
  IYEOKmSIOSgPIEUP-HIEUHmPHIEUPHmTIKEUTgSSANGPIEUPlSIOSlTIKEUTgTIKEUT-HIEUHgYEORINHIEUH-HIEUHiSIEU
  NGcFLEcGHT-HANDkEDgLIGHTEDgSIDEfHANDdVEDICcKRIKcMdGBAcNdFORZANDOdGEDeINGcPdPLEcRAcTTORUdUALcVERb
  JESbLEcIcMcObMTbO-1c2cAdRdSTEDcBATdOTcCcDcGOMcLLeED-UPcMcOFdMdSTERcPcSEdHcTdATIONScUND-TIPPEDcWB
  OATcXbRAXcEPdTdXcOPdTdXcRAcUdOeXdPdReXdTdXcYdPdReXdTdXbSbTEcHANGbU-1cAcBLEcEcGBYcIScKKAKHAcLAIdE
  e-DELAYEDeRcMIcNdICdNERdOUTcOdPdXcPdIIcRdXcSIdSIANcTcUBURUcXbWAAdHAcEdEcIdIcOdObYAcPcRdXcTcXcYaS
  -SHAPEDcWb001d2Ad3d6Ad7c14Ad5d7Ad8c26Ad7c35Ad6bA-1d2dIcADHUdIcCRIFICIALcGAdITTARIUScIKURUdLeBOAT
  cJDAHcKEeUAEdHAdINdOTdTAcL-AMMONIACdAeAMUHUeDeMdLALLAAHUiHUdT-2eILLOdUTINGcMKAdPHAOdVATdYOKcNAHd
  DeWICHdGA2dNYAdSKRITdTIIMUdYOOGAcPAcQcSHcTANGAdCHELdKAANhKUUdURNcUCERdILdRASHTRAeOPODcVOURINGcWA
  NcXdIMATAdOPHONEcYANNAbBRULcUBbCALESdNdRFcEPTERcHEMAdOLARdROEDERcIcOOTERdREePIONgUSdTScREAMINGeW
  DRIVERdOLLdUPLEcWAbDcONGbE-1cAGULLdTcCANTdRETdTORcDNAcE-NO-EVILdDLINGdNUdVcGMENTEDcLECTEDgOR-1k0
  l0k7eNAdFIEcMISEXTILEfOFTeVOWELdKeATHdUNCIAcNTAGONeIeOcPdARATEDdTEMBEReUPLEcQUENCEcRIOUSdVICEcSA
  MEdQUIQUADRATEdTERTIUScTFONcUAEQdNYAMcVEN-THIRTYfTHeRANCEcWINGcXdTANSgT-1j2k3l4m5m6l5m6l6k4l5m6l
  6k5l6k6j3k4l5m6l6k56k6j4k5l6k6j5k6j6i23k4l5m6l6k5l6k6j4k5l6j5k6j6i3j4k5l6k6j5k6j6i4j5k6j6i5j6i6e
  ILEeULAcYKbGcCcORcRAbH2cAB6dDEDdKeEReTIdLLOWeSHELETdMROCKdNGdPeEfSeINGdRAfDAeKdVEDeIANfYANIdXdYc
  CHOOIcE-GOATdENUdG9dLFdNdPdQELdSH2fLAMdUAEgQhTUeOQdVAdXcIINdNDAeIGeTOdRAEeTdYYAALAAcOAdCKEDdESdO
  IeTfINGdRT-TWIG-ARlBJARKANlHAGALLlMADRlNAUDlOSSlSOLlTYRlYRfCAKEfENERfHANDdTdUeLDEREDdWERdXcRAeAd
  IIeNEdOeOdUGcUANGXIdBURdENSHUETeQdFFLEdLdMdOePeXdPdRXdTeTLECOCKdXcVcWAAdIeIdOeOeYcYAdEdPdReXdTdX
  bI-1cAcCKLEeNESScDDHIcEdEdPdXcGELdMOIDdNSeWRITINGcKIcLIQUAdVERcMANSISdULTANEOUScNDHIdEdGAATeLE-S
  HIFT-2n3dKINGdOLOGICALdUSOIDcOS-IEUNGfKAPYEOUNPIEUPgHIEUKHfPANSIOSgHIEUPHgIEUP-KIYEOKfSSANGSIOSc
  PcRINGUdRAHcSAcTdEcX-LINEePER-EMeSTRINGeTHIRTYdTEENTH-1eY-FOURTHScZEbJEbKcATEBOARDcIERdNcOBAcUNK
  cWdAbLAVEeONICcEDdEPfYdUTHcIDEfReINGdNGcOPEeINGdTeHdWLYdZHITIEcURbMEARcIRKINGcOKINGbNAdILdPcEEZI
  NGcOWBOARDEReFLAKEbO-1cAcCCERdKScFTBALLeNESSeWARE-FUNCTIONcHcLIDcMPENGcNdGdJAMcONcPcQcRAdIcUdNAP
  dTH-SLAVEYcWdILOcXcYdOMBObPADESdGHETTIdRKLEhRhSgINGdTHIcEdAK-NO-EVILfINGdEDBOATdNTdSMILOcIdCEdDE
  RdNEdRANTeITUScLASHINGeYEDdITTINGcOdNGEdOLdRTSdTdUTINGcRECHGESANGdINGgSdOUTcUNGScWAcYbQUEEZEDdID
  eRRELeSHbRbS2c3cAAdNGARAEAfCIEUC-HIEUHfMIEUMfRIEUL-KHIEUKHfSIOS-KIYEOKkPIEUPkTIKEUTfTHIEUTHgIKEU
  T-PIEUPfYEORINHIEUHhSIEUNGdPdTdXcEEdPdXcHEdINcIEePeXdPdTdXcOPdTdXcUPdTdXcYdPdReXdTdXbT2cACCATISS
  IMOhOeKEDdDIUMdLLIONdNeDfINGfSTILLdRKeREDeSeTINGdTEfRSeIONeUEdUROSdVROUcEAMINGfYdNOGRAPHICdREOdT
  HOSCOPEcILLdMMEdRRUPcOPPAGEfINGeWATCHdVEcRAGGISMATAeIFfGHTNESSfNEReTIANfUM-2eWfBERRYdEAMEReNGTHe
  TCHdICTLYeDEeKEgTHROUGHePEdOKE-1i0cScUCK-OUTdDIOdFFEDdPAcWAcXbU-1cABdEeNeTdMcBdHAANAHUdITOdJECTd
  LIMATE-2iIONdPUNCTISdUNITcCKeINGcDd2cITABLEcLFURcMASHdMERcNFLOWERdRISEdSETcOdPdXcPdERfFIXEDfHERO
  fIMPOSEDfVILLAINcR9dEdFERdXdYAcSHIcTdRAcXbVcETLOfYbWAAdNdPPINGcEcGcIdIdMMERfINGeSUITcOdOdRDfScUN
  GcZbYcAcIcLOTIcMBOL-10i1i7h23i9h32i6h4i2i5i7h50h7dMETRIChYcNdAFIeGOGUEdDESMOSdEVMAcOUWAcPcRdINGE
  dMAfTIKIdXcSTEMcTcXbZcAdAcEdEcIcOcUcWAdGcZaT-REXcSHIRTb001d3Ad4d7Ad8eAd9eAc10d1Ad2d6Ad7c32Ad3eAd
  4bA-1d2dROLc2cAALAAdFdIdMdQdSHAEcBAARAKAdScCOcENcGALOGdBANWAcHALAcILLESSdSYOUcKdEeOUTdHALLUSdRIc
  LENTgScMALEeNcNAeBATAdGeERINEeSAcOcPdERcQcRTARg-2dUNGcSdHEELdSIcTTOOEDcUMdRUScVIYANIcWAdELLEMETc
  XdIcYdANNAbCHEbE-1d2dUcAdCUPdPOTdRe-OFFeDROP-BARBEDjSHANKEDcDDYcEEEdNSdTHcGEHcIWScKcLESCOPEeVISI
  ONdLERdOUSdUeGUcMPLEeUScN-THIRTYdGEdUTOcPcRMINALcSSARONdTcTRAFONIASfGRAMfPLIcUdNdTeEUWENgXcVIRcX
  bH-CREEcAALUeNAdHANdIdJdMEDHdNNAeTHAKHATdWcEAdMATISMOSdREfFOREeMODYNAMICdSeEOSdTHfEdYcIABdCKdGHd
  NGeKINGdRD-STAGEeTY-FIVEhONEdTAdUTHcOAdJdMdUcREE-CIRCLEgDOTgEMgHUNDRED-AND-TWENTIETHgLEGGEDhINEg
  PER-EMgQUARTERgTHIRTYdOWINGcUNDERSTORMeGdRISAZeScWEeEdIeIdOeOcYOOMcZbI-1c2cARAcCKETgScEPdXcFINAG
  HcIcKEUT-CHIEUCHhMIEUMhSIOS-KIYEOKhTHIEUTHcLESdTcMERcNdAGMAdCTUREdGdNEcPEHAdPIcREDdHUTAdTAdYAKcT
  UAEPcWAZdRcXbJEbLEEcHEEdOOdUdWEdYAbNbO-1dRAcAdNDAKHIATcCHKAcILETcKYOcLONGcMATOdPIcNdE-4f8fBfDfGf
  JfMfSfVdGcOLBOXdNdTHBRUSHcRCHdNADOdSOf-FLOORPLANEgWALLPLANEcScTOcUCHfESfTONEdRNOIScVcWERcXbRcACK
  BALLeTORdDEeITIONALdILINGdMeWAYdNSMITfPLUTOfVERSALdPeEZIUMdVEL-FLOORPLANEhWALLPLANEdYcEADINGdDEC
  ILEdSILLOeVETLOiYcIdAeNGLE-ROUNDdFOLIATEfNIASdGORGONeRAMdISAPdLLfIONSdONdPLIeODdTIMORIONeOSdUMPH
  cOLLfEYhBUSdMIKOLYGISMAhPARAKALESMAiSIFISTONhSYNAGMAdPHYcUMP-1h0fETdNCATEDdTHcYASKAfOGLASNAYAgPO
  VODNAYAgSTRELNAYAdBLIONbSAAeDIYdBcEEBdREcHABdEEJeSdOOJfKdUGScIUcOVcSAdEcWAdBdEbT2cAYANNAcEEcHdEE
  dOOdUdWEcSAdEeEdIdOdUcTHAcUdDDAAGgGbU-1dTOcAEePcBdEcGRIKcKWENTIScLIPcMAEdBLERdETEScNNYcOdPdXcPNI
  cRKEYeICfSHdO2dUdXcTdEYASATdTYcUMUcXdEDObVIMADURbWAAcELFTHeVE-THIRTYdNTY-EIGHThNINEhSEVENiIXcIdI
  dSTEDfINGcO-EMeLINEeTHIRTYeWAYdObXAcHEEJcWVbYAdYcEcIcOcPE-1g-2f2f4f5f6f7cRbZcAdAcEdEcIdRcOdAcUaU
  -1cAdEcEO-EUcI-IcUcYEeOb001d6Ad7c23Ad4d9Ac30d2Ad3bANdGcTHbBADAMAcHAYATOcUFILIbDAATdRKAcUGbEAcCcE
  cIcNcQcYbGARITICbHDbICcLLEANNcQcUCdQdXdZcXcZbKARAbMBINbNAdMUSEDdPdSPIRATEDcBLENDEDcCERTAINTYdIAc
  DERDOTfLINEdOcEVENcGcICORNdFORMdTEDeYcKNOWNcMARRIEDbOGcNcPcXbPRIGHTcSIDE-DOWNbQbR4cAcId3dNEcNcUS
  dZbSE-1e2cH2dENNAdUMXdXcSUe3bTUKIbUUd2d3dUcYANNAbWUbXbYANNAcGHURbZc3cHAKKUcUaV001eAd2eAd3d7Ad8c1
  1Ad2eAd3c20Ad1d3Ad4d8Ad9eAc30eAd1eAd2d3Ad4d7Ad8c40AbAAVUcIcJcKAIYARAAcLLEYcMAGOMUKHAdPIREcPdOURS
  cRAAKANdEIAIdIKAdYScSTNESScTdHYcUcXcYANNAbCbECTORcHICLEcILcLIcNDcRdDIGRISdGEdSICLEdTICAL-00-00k1
  -00k2-00k3-00k4-00k5-00k6-00cSSELdTeAcUAEfPENdMdXcXcYZbFAbHAbIBRATIONcDAdEOCASSETTEdJe-2cEdPdTNA
  MESEdWDATAeEReINGdXcGINTILEcLLAGEcNEGAR-2cOLINcPcRGAeOdIAMcSARGAYAdIGOTHICcTdAEf-2dHKUQIdRIOLh-2
  cXbOCALfIZATIONcDcICELESSdDeEDcLCANOdLEYBALLdTAGEdUMEcMdITINGcOIcPcTcWdEL-CARRIERcXbQbRAKHIYAbSc
  1d0e0d7bTcSbUEQcLCANUScPcRXcTcXbWcAcJbXbYPcRdXcTcXbZcMETaW001d3Ad4d9Ac10eAd1d4Ad5d7Ad8eAd9c24Ad5
  bA-1dAALIHdSALLAMdTAAALAAcAALIHEEdJIBdVUcDDAcENcFFLEcIdSTcLLPLANEcNdCHOdDeERERdGKUOQcQFAcRANGdNI
  NGcS-SALAAMdSALLAMdTEBASKETeINGcTdERMELONdTObBbE-1cAPONcBcDDINGdGEf-TAILEDcENcIERSTRASScLLcNcPcT
  cUXcXbGbHcEELEDcITE-FEATHEREDbI-1cANGfWAAKcDENINGcGGLESdNYANcIcLTEDcNdGSdJAdKdTERcREDbJbO-1cAcEc
  LFcMENfScONcPcRDSPACEdKERdLDdMdRIEDdSHIPcWcXbRAPePEDcEATHdSTLERScONGcYbUAENeTcIcLUcNdJOcOPdXcPbV
  AcEcIbZaX-RAYcXb001d4Ad5d6Ad7d8AbAAcPHcUdSbEEcSTEScYNbGbHEYNbIABdNGQIcEdPdTdXcPcRONcTcXbOAcPdHcR
  cTcXbSHAAYATHIYAbUcOdXbVEbWAdAcEdEcIbYcAAcEEeMcIcOdOeJcPcRdXcTcUcXaY001eAd2bA-1dOdUcADOdIdRUcBdH
  cCHcDdDeHdHcEMMAEcFdUcGdHeHdNcHHcKASHdHeHcLcMdAKKANdOKcNcQcRNdRcSdHdScTHdTcUcVcWNINGcYANNAdDcZHd
  ZbEAcEGcINcNAPcO-OeUeYAcRAHcSIEUNG-HIEUHjKHIEUKHkIYEOKjMIEUMjSSANGKIYEOKcTIVcUAEfTdMdQdRAEdXcWcY
  cZIDIbFENbHAbI-UcEEdPdTdXcHcIcNGcPcXcZETbO-1dAeEdEOdOdYEOeOcAcGHcMOcPcRIcUdTHFULiNESScWDcXcYbPOK
  RISISdRROIcSILIbRYbU-1dAeEdEeOdOdUcAENdNcDHcEdQcIcNcOdMdTdXcPcRdXcUKALEAPINTUcXbWAAcEcIdIcOdObYA
  AcEcPcRdXcTcXaZ001d2Ad3eAd4eAd5eAd6c15Ad6eAbADERZHKAcEFcGcIcKRYTAYAgOEcMXcNABAZARdOZHEKcPdYATYMI
  cQEFcRLdQAcTcVIYANIcXcYIN-YODHbE2cBRAcLOcMLYAcPcUScVOKcXbHcAAdINdPdTdXdYINcEPdTdXcILcOIdOdPdTdXc
  UOePeXdPdReXdTdXcWAdEcYdPdReXdTdXbI3cBcEdPdXcGcLDEcNORcPdPER-MOUTHcQAAcTcXbJEbLAMAbMEYTSAbNAMENN
  YbOAcMBIEcPcXbQAPHAbRAbSAcHAbUBURcMcOdPdXcRXcTcXbWAdRAKAYcNBSPdJcSPbYGOScPcRdXcTcXbZAAdPdTdXcEEd
  PdXcIEePeXdPdTdXcOPdXcSAdYAcUPdReXdXcYdAdPdReXdTdX"

end Haml.CharacterName
