/-!
# Names of characters from U+13000 to U+1AFFE

The names of Unicode 14.  Each entry gives the first of some characters in a row and their
names, one after the other, between semicolons and line ends.
-/

namespace UrlRouting.Text

/-- The names of the characters from U+13000 to U+1AFFE. -/
def namesFrom13000 : List (Nat × String) := [
  (0x13000, "EGYPTIAN HIEROGLYPH A001;EGYPTIAN HIEROGLYPH A002;EGYPTIAN HIEROGLYPH A003
EGYPTIAN HIEROGLYPH A004;EGYPTIAN HIEROGLYPH A005;EGYPTIAN HIEROGLYPH A005A
EGYPTIAN HIEROGLYPH A006;EGYPTIAN HIEROGLYPH A006A;EGYPTIAN HIEROGLYPH A006B
EGYPTIAN HIEROGLYPH A007;EGYPTIAN HIEROGLYPH A008;EGYPTIAN HIEROGLYPH A009
EGYPTIAN HIEROGLYPH A010;EGYPTIAN HIEROGLYPH A011;EGYPTIAN HIEROGLYPH A012
EGYPTIAN HIEROGLYPH A013;EGYPTIAN HIEROGLYPH A014;EGYPTIAN HIEROGLYPH A014A
EGYPTIAN HIEROGLYPH A015;EGYPTIAN HIEROGLYPH A016;EGYPTIAN HIEROGLYPH A017
EGYPTIAN HIEROGLYPH A017A;EGYPTIAN HIEROGLYPH A018;EGYPTIAN HIEROGLYPH A019
EGYPTIAN HIEROGLYPH A020;EGYPTIAN HIEROGLYPH A021;EGYPTIAN HIEROGLYPH A022
EGYPTIAN HIEROGLYPH A023;EGYPTIAN HIEROGLYPH A024;EGYPTIAN HIEROGLYPH A025
EGYPTIAN HIEROGLYPH A026;EGYPTIAN HIEROGLYPH A027;EGYPTIAN HIEROGLYPH A028
EGYPTIAN HIEROGLYPH A029;EGYPTIAN HIEROGLYPH A030;EGYPTIAN HIEROGLYPH A031
EGYPTIAN HIEROGLYPH A032;EGYPTIAN HIEROGLYPH A032A;EGYPTIAN HIEROGLYPH A033
EGYPTIAN HIEROGLYPH A034;EGYPTIAN HIEROGLYPH A035;EGYPTIAN HIEROGLYPH A036
EGYPTIAN HIEROGLYPH A037;EGYPTIAN HIEROGLYPH A038;EGYPTIAN HIEROGLYPH A039
EGYPTIAN HIEROGLYPH A040;EGYPTIAN HIEROGLYPH A040A;EGYPTIAN HIEROGLYPH A041
EGYPTIAN HIEROGLYPH A042;EGYPTIAN HIEROGLYPH A042A;EGYPTIAN HIEROGLYPH A043
EGYPTIAN HIEROGLYPH A043A;EGYPTIAN HIEROGLYPH A044;EGYPTIAN HIEROGLYPH A045
EGYPTIAN HIEROGLYPH A045A;EGYPTIAN HIEROGLYPH A046;EGYPTIAN HIEROGLYPH A047
EGYPTIAN HIEROGLYPH A048;EGYPTIAN HIEROGLYPH A049;EGYPTIAN HIEROGLYPH A050
EGYPTIAN HIEROGLYPH A051;EGYPTIAN HIEROGLYPH A052;EGYPTIAN HIEROGLYPH A053
EGYPTIAN HIEROGLYPH A054;EGYPTIAN HIEROGLYPH A055;EGYPTIAN HIEROGLYPH A056
EGYPTIAN HIEROGLYPH A057;EGYPTIAN HIEROGLYPH A058;EGYPTIAN HIEROGLYPH A059
EGYPTIAN HIEROGLYPH A060;EGYPTIAN HIEROGLYPH A061;EGYPTIAN HIEROGLYPH A062
EGYPTIAN HIEROGLYPH A063;EGYPTIAN HIEROGLYPH A064;EGYPTIAN HIEROGLYPH A065
EGYPTIAN HIEROGLYPH A066;EGYPTIAN HIEROGLYPH A067;EGYPTIAN HIEROGLYPH A068
EGYPTIAN HIEROGLYPH A069;EGYPTIAN HIEROGLYPH A070;EGYPTIAN HIEROGLYPH B001
EGYPTIAN HIEROGLYPH B002;EGYPTIAN HIEROGLYPH B003;EGYPTIAN HIEROGLYPH B004
EGYPTIAN HIEROGLYPH B005;EGYPTIAN HIEROGLYPH B005A;EGYPTIAN HIEROGLYPH B006
EGYPTIAN HIEROGLYPH B007;EGYPTIAN HIEROGLYPH B008;EGYPTIAN HIEROGLYPH B009
EGYPTIAN HIEROGLYPH C001;EGYPTIAN HIEROGLYPH C002;EGYPTIAN HIEROGLYPH C002A
EGYPTIAN HIEROGLYPH C002B;EGYPTIAN HIEROGLYPH C002C;EGYPTIAN HIEROGLYPH C003
EGYPTIAN HIEROGLYPH C004;EGYPTIAN HIEROGLYPH C005;EGYPTIAN HIEROGLYPH C006
EGYPTIAN HIEROGLYPH C007;EGYPTIAN HIEROGLYPH C008;EGYPTIAN HIEROGLYPH C009
EGYPTIAN HIEROGLYPH C010;EGYPTIAN HIEROGLYPH C010A;EGYPTIAN HIEROGLYPH C011
EGYPTIAN HIEROGLYPH C012;EGYPTIAN HIEROGLYPH C013;EGYPTIAN HIEROGLYPH C014
EGYPTIAN HIEROGLYPH C015;EGYPTIAN HIEROGLYPH C016;EGYPTIAN HIEROGLYPH C017
EGYPTIAN HIEROGLYPH C018;EGYPTIAN HIEROGLYPH C019;EGYPTIAN HIEROGLYPH C020
EGYPTIAN HIEROGLYPH C021;EGYPTIAN HIEROGLYPH C022;EGYPTIAN HIEROGLYPH C023
EGYPTIAN HIEROGLYPH C024;EGYPTIAN HIEROGLYPH D001;EGYPTIAN HIEROGLYPH D002
EGYPTIAN HIEROGLYPH D003;EGYPTIAN HIEROGLYPH D004;EGYPTIAN HIEROGLYPH D005
EGYPTIAN HIEROGLYPH D006;EGYPTIAN HIEROGLYPH D007;EGYPTIAN HIEROGLYPH D008
EGYPTIAN HIEROGLYPH D008A;EGYPTIAN HIEROGLYPH D009;EGYPTIAN HIEROGLYPH D010
EGYPTIAN HIEROGLYPH D011;EGYPTIAN HIEROGLYPH D012;EGYPTIAN HIEROGLYPH D013
EGYPTIAN HIEROGLYPH D014;EGYPTIAN HIEROGLYPH D015;EGYPTIAN HIEROGLYPH D016
EGYPTIAN HIEROGLYPH D017;EGYPTIAN HIEROGLYPH D018;EGYPTIAN HIEROGLYPH D019
EGYPTIAN HIEROGLYPH D020;EGYPTIAN HIEROGLYPH D021;EGYPTIAN HIEROGLYPH D022
EGYPTIAN HIEROGLYPH D023;EGYPTIAN HIEROGLYPH D024;EGYPTIAN HIEROGLYPH D025
EGYPTIAN HIEROGLYPH D026;EGYPTIAN HIEROGLYPH D027;EGYPTIAN HIEROGLYPH D027A
EGYPTIAN HIEROGLYPH D028;EGYPTIAN HIEROGLYPH D029;EGYPTIAN HIEROGLYPH D030
EGYPTIAN HIEROGLYPH D031;EGYPTIAN HIEROGLYPH D031A;EGYPTIAN HIEROGLYPH D032
EGYPTIAN HIEROGLYPH D033;EGYPTIAN HIEROGLYPH D034;EGYPTIAN HIEROGLYPH D034A
EGYPTIAN HIEROGLYPH D035;EGYPTIAN HIEROGLYPH D036;EGYPTIAN HIEROGLYPH D037
EGYPTIAN HIEROGLYPH D038;EGYPTIAN HIEROGLYPH D039;EGYPTIAN HIEROGLYPH D040
EGYPTIAN HIEROGLYPH D041;EGYPTIAN HIEROGLYPH D042;EGYPTIAN HIEROGLYPH D043
EGYPTIAN HIEROGLYPH D044;EGYPTIAN HIEROGLYPH D045;EGYPTIAN HIEROGLYPH D046
EGYPTIAN HIEROGLYPH D046A;EGYPTIAN HIEROGLYPH D047;EGYPTIAN HIEROGLYPH D048
EGYPTIAN HIEROGLYPH D048A;EGYPTIAN HIEROGLYPH D049;EGYPTIAN HIEROGLYPH D050
EGYPTIAN HIEROGLYPH D050A;EGYPTIAN HIEROGLYPH D050B;EGYPTIAN HIEROGLYPH D050C
EGYPTIAN HIEROGLYPH D050D;EGYPTIAN HIEROGLYPH D050E;EGYPTIAN HIEROGLYPH D050F
EGYPTIAN HIEROGLYPH D050G;EGYPTIAN HIEROGLYPH D050H;EGYPTIAN HIEROGLYPH D050I
EGYPTIAN HIEROGLYPH D051;EGYPTIAN HIEROGLYPH D052;EGYPTIAN HIEROGLYPH D052A
EGYPTIAN HIEROGLYPH D053;EGYPTIAN HIEROGLYPH D054;EGYPTIAN HIEROGLYPH D054A
EGYPTIAN HIEROGLYPH D055;EGYPTIAN HIEROGLYPH D056;EGYPTIAN HIEROGLYPH D057
EGYPTIAN HIEROGLYPH D058;EGYPTIAN HIEROGLYPH D059;EGYPTIAN HIEROGLYPH D060
EGYPTIAN HIEROGLYPH D061;EGYPTIAN HIEROGLYPH D062;EGYPTIAN HIEROGLYPH D063
EGYPTIAN HIEROGLYPH D064;EGYPTIAN HIEROGLYPH D065;EGYPTIAN HIEROGLYPH D066
EGYPTIAN HIEROGLYPH D067;EGYPTIAN HIEROGLYPH D067A;EGYPTIAN HIEROGLYPH D067B
EGYPTIAN HIEROGLYPH D067C;EGYPTIAN HIEROGLYPH D067D;EGYPTIAN HIEROGLYPH D067E
EGYPTIAN HIEROGLYPH D067F;EGYPTIAN HIEROGLYPH D067G;EGYPTIAN HIEROGLYPH D067H
EGYPTIAN HIEROGLYPH E001;EGYPTIAN HIEROGLYPH E002;EGYPTIAN HIEROGLYPH E003
EGYPTIAN HIEROGLYPH E004;EGYPTIAN HIEROGLYPH E005;EGYPTIAN HIEROGLYPH E006
EGYPTIAN HIEROGLYPH E007;EGYPTIAN HIEROGLYPH E008;EGYPTIAN HIEROGLYPH E008A
EGYPTIAN HIEROGLYPH E009;EGYPTIAN HIEROGLYPH E009A;EGYPTIAN HIEROGLYPH E010
EGYPTIAN HIEROGLYPH E011;EGYPTIAN HIEROGLYPH E012;EGYPTIAN HIEROGLYPH E013
EGYPTIAN HIEROGLYPH E014;EGYPTIAN HIEROGLYPH E015;EGYPTIAN HIEROGLYPH E016
EGYPTIAN HIEROGLYPH E016A;EGYPTIAN HIEROGLYPH E017;EGYPTIAN HIEROGLYPH E017A
EGYPTIAN HIEROGLYPH E018;EGYPTIAN HIEROGLYPH E019;EGYPTIAN HIEROGLYPH E020
EGYPTIAN HIEROGLYPH E020A;EGYPTIAN HIEROGLYPH E021;EGYPTIAN HIEROGLYPH E022
EGYPTIAN HIEROGLYPH E023;EGYPTIAN HIEROGLYPH E024;EGYPTIAN HIEROGLYPH E025
EGYPTIAN HIEROGLYPH E026;EGYPTIAN HIEROGLYPH E027;EGYPTIAN HIEROGLYPH E028
EGYPTIAN HIEROGLYPH E028A;EGYPTIAN HIEROGLYPH E029;EGYPTIAN HIEROGLYPH E030
EGYPTIAN HIEROGLYPH E031;EGYPTIAN HIEROGLYPH E032;EGYPTIAN HIEROGLYPH E033
EGYPTIAN HIEROGLYPH E034;EGYPTIAN HIEROGLYPH E034A;EGYPTIAN HIEROGLYPH E036
EGYPTIAN HIEROGLYPH E037;EGYPTIAN HIEROGLYPH E038;EGYPTIAN HIEROGLYPH F001
EGYPTIAN HIEROGLYPH F001A;EGYPTIAN HIEROGLYPH F002;EGYPTIAN HIEROGLYPH F003
EGYPTIAN HIEROGLYPH F004;EGYPTIAN HIEROGLYPH F005;EGYPTIAN HIEROGLYPH F006
EGYPTIAN HIEROGLYPH F007;EGYPTIAN HIEROGLYPH F008;EGYPTIAN HIEROGLYPH F009
EGYPTIAN HIEROGLYPH F010;EGYPTIAN HIEROGLYPH F011;EGYPTIAN HIEROGLYPH F012
EGYPTIAN HIEROGLYPH F013;EGYPTIAN HIEROGLYPH F013A;EGYPTIAN HIEROGLYPH F014
EGYPTIAN HIEROGLYPH F015;EGYPTIAN HIEROGLYPH F016;EGYPTIAN HIEROGLYPH F017
EGYPTIAN HIEROGLYPH F018;EGYPTIAN HIEROGLYPH F019;EGYPTIAN HIEROGLYPH F020
EGYPTIAN HIEROGLYPH F021;EGYPTIAN HIEROGLYPH F021A;EGYPTIAN HIEROGLYPH F022
EGYPTIAN HIEROGLYPH F023;EGYPTIAN HIEROGLYPH F024;EGYPTIAN HIEROGLYPH F025
EGYPTIAN HIEROGLYPH F026;EGYPTIAN HIEROGLYPH F027;EGYPTIAN HIEROGLYPH F028
EGYPTIAN HIEROGLYPH F029;EGYPTIAN HIEROGLYPH F030;EGYPTIAN HIEROGLYPH F031
EGYPTIAN HIEROGLYPH F031A;EGYPTIAN HIEROGLYPH F032;EGYPTIAN HIEROGLYPH F033
EGYPTIAN HIEROGLYPH F034;EGYPTIAN HIEROGLYPH F035;EGYPTIAN HIEROGLYPH F036
EGYPTIAN HIEROGLYPH F037;EGYPTIAN HIEROGLYPH F037A;EGYPTIAN HIEROGLYPH F038
EGYPTIAN HIEROGLYPH F038A;EGYPTIAN HIEROGLYPH F039;EGYPTIAN HIEROGLYPH F040
EGYPTIAN HIEROGLYPH F041;EGYPTIAN HIEROGLYPH F042;EGYPTIAN HIEROGLYPH F043
EGYPTIAN HIEROGLYPH F044;EGYPTIAN HIEROGLYPH F045;EGYPTIAN HIEROGLYPH F045A
EGYPTIAN HIEROGLYPH F046;EGYPTIAN HIEROGLYPH F046A;EGYPTIAN HIEROGLYPH F047
EGYPTIAN HIEROGLYPH F047A;EGYPTIAN HIEROGLYPH F048;EGYPTIAN HIEROGLYPH F049
EGYPTIAN HIEROGLYPH F050;EGYPTIAN HIEROGLYPH F051;EGYPTIAN HIEROGLYPH F051A
EGYPTIAN HIEROGLYPH F051B;EGYPTIAN HIEROGLYPH F051C;EGYPTIAN HIEROGLYPH F052
EGYPTIAN HIEROGLYPH F053;EGYPTIAN HIEROGLYPH G001;EGYPTIAN HIEROGLYPH G002
EGYPTIAN HIEROGLYPH G003;EGYPTIAN HIEROGLYPH G004;EGYPTIAN HIEROGLYPH G005
EGYPTIAN HIEROGLYPH G006;EGYPTIAN HIEROGLYPH G006A;EGYPTIAN HIEROGLYPH G007
EGYPTIAN HIEROGLYPH G007A;EGYPTIAN HIEROGLYPH G007B;EGYPTIAN HIEROGLYPH G008
EGYPTIAN HIEROGLYPH G009;EGYPTIAN HIEROGLYPH G010;EGYPTIAN HIEROGLYPH G011
EGYPTIAN HIEROGLYPH G011A;EGYPTIAN HIEROGLYPH G012;EGYPTIAN HIEROGLYPH G013
EGYPTIAN HIEROGLYPH G014;EGYPTIAN HIEROGLYPH G015;EGYPTIAN HIEROGLYPH G016
EGYPTIAN HIEROGLYPH G017;EGYPTIAN HIEROGLYPH G018;EGYPTIAN HIEROGLYPH G019
EGYPTIAN HIEROGLYPH G020;EGYPTIAN HIEROGLYPH G020A;EGYPTIAN HIEROGLYPH G021
EGYPTIAN HIEROGLYPH G022;EGYPTIAN HIEROGLYPH G023;EGYPTIAN HIEROGLYPH G024
EGYPTIAN HIEROGLYPH G025;EGYPTIAN HIEROGLYPH G026;EGYPTIAN HIEROGLYPH G026A
EGYPTIAN HIEROGLYPH G027;EGYPTIAN HIEROGLYPH G028;EGYPTIAN HIEROGLYPH G029
EGYPTIAN HIEROGLYPH G030;EGYPTIAN HIEROGLYPH G031;EGYPTIAN HIEROGLYPH G032
EGYPTIAN HIEROGLYPH G033;EGYPTIAN HIEROGLYPH G034;EGYPTIAN HIEROGLYPH G035
EGYPTIAN HIEROGLYPH G036;EGYPTIAN HIEROGLYPH G036A;EGYPTIAN HIEROGLYPH G037
EGYPTIAN HIEROGLYPH G037A;EGYPTIAN HIEROGLYPH G038;EGYPTIAN HIEROGLYPH G039
EGYPTIAN HIEROGLYPH G040;EGYPTIAN HIEROGLYPH G041;EGYPTIAN HIEROGLYPH G042
EGYPTIAN HIEROGLYPH G043;EGYPTIAN HIEROGLYPH G043A;EGYPTIAN HIEROGLYPH G044
EGYPTIAN HIEROGLYPH G045;EGYPTIAN HIEROGLYPH G045A;EGYPTIAN HIEROGLYPH G046
EGYPTIAN HIEROGLYPH G047;EGYPTIAN HIEROGLYPH G048;EGYPTIAN HIEROGLYPH G049
EGYPTIAN HIEROGLYPH G050;EGYPTIAN HIEROGLYPH G051;EGYPTIAN HIEROGLYPH G052
EGYPTIAN HIEROGLYPH G053;EGYPTIAN HIEROGLYPH G054;EGYPTIAN HIEROGLYPH H001
EGYPTIAN HIEROGLYPH H002;EGYPTIAN HIEROGLYPH H003;EGYPTIAN HIEROGLYPH H004
EGYPTIAN HIEROGLYPH H005;EGYPTIAN HIEROGLYPH H006;EGYPTIAN HIEROGLYPH H006A
EGYPTIAN HIEROGLYPH H007;EGYPTIAN HIEROGLYPH H008;EGYPTIAN HIEROGLYPH I001
EGYPTIAN HIEROGLYPH I002;EGYPTIAN HIEROGLYPH I003;EGYPTIAN HIEROGLYPH I004
EGYPTIAN HIEROGLYPH I005;EGYPTIAN HIEROGLYPH I005A;EGYPTIAN HIEROGLYPH I006
EGYPTIAN HIEROGLYPH I007;EGYPTIAN HIEROGLYPH I008;EGYPTIAN HIEROGLYPH I009
EGYPTIAN HIEROGLYPH I009A;EGYPTIAN HIEROGLYPH I010;EGYPTIAN HIEROGLYPH I010A
EGYPTIAN HIEROGLYPH I011;EGYPTIAN HIEROGLYPH I011A;EGYPTIAN HIEROGLYPH I012
EGYPTIAN HIEROGLYPH I013;EGYPTIAN HIEROGLYPH I014;EGYPTIAN HIEROGLYPH I015
EGYPTIAN HIEROGLYPH K001;EGYPTIAN HIEROGLYPH K002;EGYPTIAN HIEROGLYPH K003
EGYPTIAN HIEROGLYPH K004;EGYPTIAN HIEROGLYPH K005;EGYPTIAN HIEROGLYPH K006
EGYPTIAN HIEROGLYPH K007;EGYPTIAN HIEROGLYPH K008;EGYPTIAN HIEROGLYPH L001
EGYPTIAN HIEROGLYPH L002;EGYPTIAN HIEROGLYPH L002A;EGYPTIAN HIEROGLYPH L003
EGYPTIAN HIEROGLYPH L004;EGYPTIAN HIEROGLYPH L005;EGYPTIAN HIEROGLYPH L006
EGYPTIAN HIEROGLYPH L006A;EGYPTIAN HIEROGLYPH L007;EGYPTIAN HIEROGLYPH L008
EGYPTIAN HIEROGLYPH M001;EGYPTIAN HIEROGLYPH M001A;EGYPTIAN HIEROGLYPH M001B
EGYPTIAN HIEROGLYPH M002;EGYPTIAN HIEROGLYPH M003;EGYPTIAN HIEROGLYPH M003A
EGYPTIAN HIEROGLYPH M004;EGYPTIAN HIEROGLYPH M005;EGYPTIAN HIEROGLYPH M006
EGYPTIAN HIEROGLYPH M007;EGYPTIAN HIEROGLYPH M008;EGYPTIAN HIEROGLYPH M009
EGYPTIAN HIEROGLYPH M010;EGYPTIAN HIEROGLYPH M010A;EGYPTIAN HIEROGLYPH M011
EGYPTIAN HIEROGLYPH M012;EGYPTIAN HIEROGLYPH M012A;EGYPTIAN HIEROGLYPH M012B
EGYPTIAN HIEROGLYPH M012C;EGYPTIAN HIEROGLYPH M012D;EGYPTIAN HIEROGLYPH M012E
EGYPTIAN HIEROGLYPH M012F;EGYPTIAN HIEROGLYPH M012G;EGYPTIAN HIEROGLYPH M012H
EGYPTIAN HIEROGLYPH M013;EGYPTIAN HIEROGLYPH M014;EGYPTIAN HIEROGLYPH M015
EGYPTIAN HIEROGLYPH M015A;EGYPTIAN HIEROGLYPH M016;EGYPTIAN HIEROGLYPH M016A
EGYPTIAN HIEROGLYPH M017;EGYPTIAN HIEROGLYPH M017A;EGYPTIAN HIEROGLYPH M018
EGYPTIAN HIEROGLYPH M019;EGYPTIAN HIEROGLYPH M020;EGYPTIAN HIEROGLYPH M021
EGYPTIAN HIEROGLYPH M022;EGYPTIAN HIEROGLYPH M022A;EGYPTIAN HIEROGLYPH M023
EGYPTIAN HIEROGLYPH M024;EGYPTIAN HIEROGLYPH M024A;EGYPTIAN HIEROGLYPH M025
EGYPTIAN HIEROGLYPH M026;EGYPTIAN HIEROGLYPH M027;EGYPTIAN HIEROGLYPH M028
EGYPTIAN HIEROGLYPH M028A;EGYPTIAN HIEROGLYPH M029;EGYPTIAN HIEROGLYPH M030
EGYPTIAN HIEROGLYPH M031;EGYPTIAN HIEROGLYPH M031A;EGYPTIAN HIEROGLYPH M032
EGYPTIAN HIEROGLYPH M033;EGYPTIAN HIEROGLYPH M033A;EGYPTIAN HIEROGLYPH M033B
EGYPTIAN HIEROGLYPH M034;EGYPTIAN HIEROGLYPH M035;EGYPTIAN HIEROGLYPH M036
EGYPTIAN HIEROGLYPH M037;EGYPTIAN HIEROGLYPH M038;EGYPTIAN HIEROGLYPH M039
EGYPTIAN HIEROGLYPH M040;EGYPTIAN HIEROGLYPH M040A;EGYPTIAN HIEROGLYPH M041
EGYPTIAN HIEROGLYPH M042;EGYPTIAN HIEROGLYPH M043;EGYPTIAN HIEROGLYPH M044
EGYPTIAN HIEROGLYPH N001;EGYPTIAN HIEROGLYPH N002;EGYPTIAN HIEROGLYPH N003
EGYPTIAN HIEROGLYPH N004;EGYPTIAN HIEROGLYPH N005;EGYPTIAN HIEROGLYPH N006
EGYPTIAN HIEROGLYPH N007;EGYPTIAN HIEROGLYPH N008;EGYPTIAN HIEROGLYPH N009
EGYPTIAN HIEROGLYPH N010;EGYPTIAN HIEROGLYPH N011;EGYPTIAN HIEROGLYPH N012
EGYPTIAN HIEROGLYPH N013;EGYPTIAN HIEROGLYPH N014;EGYPTIAN HIEROGLYPH N015
EGYPTIAN HIEROGLYPH N016;EGYPTIAN HIEROGLYPH N017;EGYPTIAN HIEROGLYPH N018
EGYPTIAN HIEROGLYPH N018A;EGYPTIAN HIEROGLYPH N018B;EGYPTIAN HIEROGLYPH N019
EGYPTIAN HIEROGLYPH N020;EGYPTIAN HIEROGLYPH N021;EGYPTIAN HIEROGLYPH N022
EGYPTIAN HIEROGLYPH N023;EGYPTIAN HIEROGLYPH N024;EGYPTIAN HIEROGLYPH N025
EGYPTIAN HIEROGLYPH N025A;EGYPTIAN HIEROGLYPH N026;EGYPTIAN HIEROGLYPH N027
EGYPTIAN HIEROGLYPH N028;EGYPTIAN HIEROGLYPH N029;EGYPTIAN HIEROGLYPH N030
EGYPTIAN HIEROGLYPH N031;EGYPTIAN HIEROGLYPH N032;EGYPTIAN HIEROGLYPH N033
EGYPTIAN HIEROGLYPH N033A;EGYPTIAN HIEROGLYPH N034;EGYPTIAN HIEROGLYPH N034A
EGYPTIAN HIEROGLYPH N035;EGYPTIAN HIEROGLYPH N035A;EGYPTIAN HIEROGLYPH N036
EGYPTIAN HIEROGLYPH N037;EGYPTIAN HIEROGLYPH N037A;EGYPTIAN HIEROGLYPH N038
EGYPTIAN HIEROGLYPH N039;EGYPTIAN HIEROGLYPH N040;EGYPTIAN HIEROGLYPH N041
EGYPTIAN HIEROGLYPH N042;EGYPTIAN HIEROGLYPH NL001;EGYPTIAN HIEROGLYPH NL002
EGYPTIAN HIEROGLYPH NL003;EGYPTIAN HIEROGLYPH NL004;EGYPTIAN HIEROGLYPH NL005
EGYPTIAN HIEROGLYPH NL005A;EGYPTIAN HIEROGLYPH NL006;EGYPTIAN HIEROGLYPH NL007
EGYPTIAN HIEROGLYPH NL008;EGYPTIAN HIEROGLYPH NL009;EGYPTIAN HIEROGLYPH NL010
EGYPTIAN HIEROGLYPH NL011;EGYPTIAN HIEROGLYPH NL012;EGYPTIAN HIEROGLYPH NL013
EGYPTIAN HIEROGLYPH NL014;EGYPTIAN HIEROGLYPH NL015;EGYPTIAN HIEROGLYPH NL016
EGYPTIAN HIEROGLYPH NL017;EGYPTIAN HIEROGLYPH NL017A;EGYPTIAN HIEROGLYPH NL018
EGYPTIAN HIEROGLYPH NL019;EGYPTIAN HIEROGLYPH NL020;EGYPTIAN HIEROGLYPH NU001
EGYPTIAN HIEROGLYPH NU002;EGYPTIAN HIEROGLYPH NU003;EGYPTIAN HIEROGLYPH NU004
EGYPTIAN HIEROGLYPH NU005;EGYPTIAN HIEROGLYPH NU006;EGYPTIAN HIEROGLYPH NU007
EGYPTIAN HIEROGLYPH NU008;EGYPTIAN HIEROGLYPH NU009;EGYPTIAN HIEROGLYPH NU010
EGYPTIAN HIEROGLYPH NU010A;EGYPTIAN HIEROGLYPH NU011;EGYPTIAN HIEROGLYPH NU011A
EGYPTIAN HIEROGLYPH NU012;EGYPTIAN HIEROGLYPH NU013;EGYPTIAN HIEROGLYPH NU014
EGYPTIAN HIEROGLYPH NU015;EGYPTIAN HIEROGLYPH NU016;EGYPTIAN HIEROGLYPH NU017
EGYPTIAN HIEROGLYPH NU018;EGYPTIAN HIEROGLYPH NU018A;EGYPTIAN HIEROGLYPH NU019
EGYPTIAN HIEROGLYPH NU020;EGYPTIAN HIEROGLYPH NU021;EGYPTIAN HIEROGLYPH NU022
EGYPTIAN HIEROGLYPH NU022A;EGYPTIAN HIEROGLYPH O001;EGYPTIAN HIEROGLYPH O001A
EGYPTIAN HIEROGLYPH O002;EGYPTIAN HIEROGLYPH O003;EGYPTIAN HIEROGLYPH O004
EGYPTIAN HIEROGLYPH O005;EGYPTIAN HIEROGLYPH O005A;EGYPTIAN HIEROGLYPH O006
EGYPTIAN HIEROGLYPH O006A;EGYPTIAN HIEROGLYPH O006B;EGYPTIAN HIEROGLYPH O006C
EGYPTIAN HIEROGLYPH O006D;EGYPTIAN HIEROGLYPH O006E;EGYPTIAN HIEROGLYPH O006F
EGYPTIAN HIEROGLYPH O007;EGYPTIAN HIEROGLYPH O008;EGYPTIAN HIEROGLYPH O009
EGYPTIAN HIEROGLYPH O010;EGYPTIAN HIEROGLYPH O010A;EGYPTIAN HIEROGLYPH O010B
EGYPTIAN HIEROGLYPH O010C;EGYPTIAN HIEROGLYPH O011;EGYPTIAN HIEROGLYPH O012
EGYPTIAN HIEROGLYPH O013;EGYPTIAN HIEROGLYPH O014;EGYPTIAN HIEROGLYPH O015
EGYPTIAN HIEROGLYPH O016;EGYPTIAN HIEROGLYPH O017;EGYPTIAN HIEROGLYPH O018
EGYPTIAN HIEROGLYPH O019;EGYPTIAN HIEROGLYPH O019A;EGYPTIAN HIEROGLYPH O020
EGYPTIAN HIEROGLYPH O020A;EGYPTIAN HIEROGLYPH O021;EGYPTIAN HIEROGLYPH O022
EGYPTIAN HIEROGLYPH O023;EGYPTIAN HIEROGLYPH O024;EGYPTIAN HIEROGLYPH O024A
EGYPTIAN HIEROGLYPH O025;EGYPTIAN HIEROGLYPH O025A;EGYPTIAN HIEROGLYPH O026
EGYPTIAN HIEROGLYPH O027;EGYPTIAN HIEROGLYPH O028;EGYPTIAN HIEROGLYPH O029
EGYPTIAN HIEROGLYPH O029A;EGYPTIAN HIEROGLYPH O030;EGYPTIAN HIEROGLYPH O030A
EGYPTIAN HIEROGLYPH O031;EGYPTIAN HIEROGLYPH O032;EGYPTIAN HIEROGLYPH O033
EGYPTIAN HIEROGLYPH O033A;EGYPTIAN HIEROGLYPH O034;EGYPTIAN HIEROGLYPH O035
EGYPTIAN HIEROGLYPH O036;EGYPTIAN HIEROGLYPH O036A;EGYPTIAN HIEROGLYPH O036B
EGYPTIAN HIEROGLYPH O036C;EGYPTIAN HIEROGLYPH O036D;EGYPTIAN HIEROGLYPH O037
EGYPTIAN HIEROGLYPH O038;EGYPTIAN HIEROGLYPH O039;EGYPTIAN HIEROGLYPH O040
EGYPTIAN HIEROGLYPH O041;EGYPTIAN HIEROGLYPH O042;EGYPTIAN HIEROGLYPH O043
EGYPTIAN HIEROGLYPH O044;EGYPTIAN HIEROGLYPH O045;EGYPTIAN HIEROGLYPH O046
EGYPTIAN HIEROGLYPH O047;EGYPTIAN HIEROGLYPH O048;EGYPTIAN HIEROGLYPH O049
EGYPTIAN HIEROGLYPH O050;EGYPTIAN HIEROGLYPH O050A;EGYPTIAN HIEROGLYPH O050B
EGYPTIAN HIEROGLYPH O051;EGYPTIAN HIEROGLYPH P001;EGYPTIAN HIEROGLYPH P001A
EGYPTIAN HIEROGLYPH P002;EGYPTIAN HIEROGLYPH P003;EGYPTIAN HIEROGLYPH P003A
EGYPTIAN HIEROGLYPH P004;EGYPTIAN HIEROGLYPH P005;EGYPTIAN HIEROGLYPH P006
EGYPTIAN HIEROGLYPH P007;EGYPTIAN HIEROGLYPH P008;EGYPTIAN HIEROGLYPH P009
EGYPTIAN HIEROGLYPH P010;EGYPTIAN HIEROGLYPH P011;EGYPTIAN HIEROGLYPH Q001
EGYPTIAN HIEROGLYPH Q002;EGYPTIAN HIEROGLYPH Q003;EGYPTIAN HIEROGLYPH Q004
EGYPTIAN HIEROGLYPH Q005;EGYPTIAN HIEROGLYPH Q006;EGYPTIAN HIEROGLYPH Q007
EGYPTIAN HIEROGLYPH R001;EGYPTIAN HIEROGLYPH R002;EGYPTIAN HIEROGLYPH R002A
EGYPTIAN HIEROGLYPH R003;EGYPTIAN HIEROGLYPH R003A;EGYPTIAN HIEROGLYPH R003B
EGYPTIAN HIEROGLYPH R004;EGYPTIAN HIEROGLYPH R005;EGYPTIAN HIEROGLYPH R006
EGYPTIAN HIEROGLYPH R007;EGYPTIAN HIEROGLYPH R008;EGYPTIAN HIEROGLYPH R009
EGYPTIAN HIEROGLYPH R010;EGYPTIAN HIEROGLYPH R010A;EGYPTIAN HIEROGLYPH R011
EGYPTIAN HIEROGLYPH R012;EGYPTIAN HIEROGLYPH R013;EGYPTIAN HIEROGLYPH R014
EGYPTIAN HIEROGLYPH R015;EGYPTIAN HIEROGLYPH R016;EGYPTIAN HIEROGLYPH R016A
EGYPTIAN HIEROGLYPH R017;EGYPTIAN HIEROGLYPH R018;EGYPTIAN HIEROGLYPH R019
EGYPTIAN HIEROGLYPH R020;EGYPTIAN HIEROGLYPH R021;EGYPTIAN HIEROGLYPH R022
EGYPTIAN HIEROGLYPH R023;EGYPTIAN HIEROGLYPH R024;EGYPTIAN HIEROGLYPH R025
EGYPTIAN HIEROGLYPH R026;EGYPTIAN HIEROGLYPH R027;EGYPTIAN HIEROGLYPH R028
EGYPTIAN HIEROGLYPH R029;EGYPTIAN HIEROGLYPH S001;EGYPTIAN HIEROGLYPH S002
EGYPTIAN HIEROGLYPH S002A;EGYPTIAN HIEROGLYPH S003;EGYPTIAN HIEROGLYPH S004
EGYPTIAN HIEROGLYPH S005;EGYPTIAN HIEROGLYPH S006;EGYPTIAN HIEROGLYPH S006A
EGYPTIAN HIEROGLYPH S007;EGYPTIAN HIEROGLYPH S008;EGYPTIAN HIEROGLYPH S009
EGYPTIAN HIEROGLYPH S010;EGYPTIAN HIEROGLYPH S011;EGYPTIAN HIEROGLYPH S012
EGYPTIAN HIEROGLYPH S013;EGYPTIAN HIEROGLYPH S014;EGYPTIAN HIEROGLYPH S014A
EGYPTIAN HIEROGLYPH S014B;EGYPTIAN HIEROGLYPH S015;EGYPTIAN HIEROGLYPH S016
EGYPTIAN HIEROGLYPH S017;EGYPTIAN HIEROGLYPH S017A;EGYPTIAN HIEROGLYPH S018
EGYPTIAN HIEROGLYPH S019;EGYPTIAN HIEROGLYPH S020;EGYPTIAN HIEROGLYPH S021
EGYPTIAN HIEROGLYPH S022;EGYPTIAN HIEROGLYPH S023;EGYPTIAN HIEROGLYPH S024
EGYPTIAN HIEROGLYPH S025;EGYPTIAN HIEROGLYPH S026;EGYPTIAN HIEROGLYPH S026A
EGYPTIAN HIEROGLYPH S026B;EGYPTIAN HIEROGLYPH S027;EGYPTIAN HIEROGLYPH S028
EGYPTIAN HIEROGLYPH S029;EGYPTIAN HIEROGLYPH S030;EGYPTIAN HIEROGLYPH S031
EGYPTIAN HIEROGLYPH S032;EGYPTIAN HIEROGLYPH S033;EGYPTIAN HIEROGLYPH S034
EGYPTIAN HIEROGLYPH S035;EGYPTIAN HIEROGLYPH S035A;EGYPTIAN HIEROGLYPH S036
EGYPTIAN HIEROGLYPH S037;EGYPTIAN HIEROGLYPH S038;EGYPTIAN HIEROGLYPH S039
EGYPTIAN HIEROGLYPH S040;EGYPTIAN HIEROGLYPH S041;EGYPTIAN HIEROGLYPH S042
EGYPTIAN HIEROGLYPH S043;EGYPTIAN HIEROGLYPH S044;EGYPTIAN HIEROGLYPH S045
EGYPTIAN HIEROGLYPH S046;EGYPTIAN HIEROGLYPH T001;EGYPTIAN HIEROGLYPH T002
EGYPTIAN HIEROGLYPH T003;EGYPTIAN HIEROGLYPH T003A;EGYPTIAN HIEROGLYPH T004
EGYPTIAN HIEROGLYPH T005;EGYPTIAN HIEROGLYPH T006;EGYPTIAN HIEROGLYPH T007
EGYPTIAN HIEROGLYPH T007A;EGYPTIAN HIEROGLYPH T008;EGYPTIAN HIEROGLYPH T008A
EGYPTIAN HIEROGLYPH T009;EGYPTIAN HIEROGLYPH T009A;EGYPTIAN HIEROGLYPH T010
EGYPTIAN HIEROGLYPH T011;EGYPTIAN HIEROGLYPH T011A;EGYPTIAN HIEROGLYPH T012
EGYPTIAN HIEROGLYPH T013;EGYPTIAN HIEROGLYPH T014;EGYPTIAN HIEROGLYPH T015
EGYPTIAN HIEROGLYPH T016;EGYPTIAN HIEROGLYPH T016A;EGYPTIAN HIEROGLYPH T017
EGYPTIAN HIEROGLYPH T018;EGYPTIAN HIEROGLYPH T019;EGYPTIAN HIEROGLYPH T020
EGYPTIAN HIEROGLYPH T021;EGYPTIAN HIEROGLYPH T022;EGYPTIAN HIEROGLYPH T023
EGYPTIAN HIEROGLYPH T024;EGYPTIAN HIEROGLYPH T025;EGYPTIAN HIEROGLYPH T026
EGYPTIAN HIEROGLYPH T027;EGYPTIAN HIEROGLYPH T028;EGYPTIAN HIEROGLYPH T029
EGYPTIAN HIEROGLYPH T030;EGYPTIAN HIEROGLYPH T031;EGYPTIAN HIEROGLYPH T032
EGYPTIAN HIEROGLYPH T032A;EGYPTIAN HIEROGLYPH T033;EGYPTIAN HIEROGLYPH T033A
EGYPTIAN HIEROGLYPH T034;EGYPTIAN HIEROGLYPH T035;EGYPTIAN HIEROGLYPH T036
EGYPTIAN HIEROGLYPH U001;EGYPTIAN HIEROGLYPH U002;EGYPTIAN HIEROGLYPH U003
EGYPTIAN HIEROGLYPH U004;EGYPTIAN HIEROGLYPH U005;EGYPTIAN HIEROGLYPH U006
EGYPTIAN HIEROGLYPH U006A;EGYPTIAN HIEROGLYPH U006B;EGYPTIAN HIEROGLYPH U007
EGYPTIAN HIEROGLYPH U008;EGYPTIAN HIEROGLYPH U009;EGYPTIAN HIEROGLYPH U010
EGYPTIAN HIEROGLYPH U011;EGYPTIAN HIEROGLYPH U012;EGYPTIAN HIEROGLYPH U013
EGYPTIAN HIEROGLYPH U014;EGYPTIAN HIEROGLYPH U015;EGYPTIAN HIEROGLYPH U016
EGYPTIAN HIEROGLYPH U017;EGYPTIAN HIEROGLYPH U018;EGYPTIAN HIEROGLYPH U019
EGYPTIAN HIEROGLYPH U020;EGYPTIAN HIEROGLYPH U021;EGYPTIAN HIEROGLYPH U022
EGYPTIAN HIEROGLYPH U023;EGYPTIAN HIEROGLYPH U023A;EGYPTIAN HIEROGLYPH U024
EGYPTIAN HIEROGLYPH U025;EGYPTIAN HIEROGLYPH U026;EGYPTIAN HIEROGLYPH U027
EGYPTIAN HIEROGLYPH U028;EGYPTIAN HIEROGLYPH U029;EGYPTIAN HIEROGLYPH U029A
EGYPTIAN HIEROGLYPH U030;EGYPTIAN HIEROGLYPH U031;EGYPTIAN HIEROGLYPH U032
EGYPTIAN HIEROGLYPH U032A;EGYPTIAN HIEROGLYPH U033;EGYPTIAN HIEROGLYPH U034
EGYPTIAN HIEROGLYPH U035;EGYPTIAN HIEROGLYPH U036;EGYPTIAN HIEROGLYPH U037
EGYPTIAN HIEROGLYPH U038;EGYPTIAN HIEROGLYPH U039;EGYPTIAN HIEROGLYPH U040
EGYPTIAN HIEROGLYPH U041;EGYPTIAN HIEROGLYPH U042;EGYPTIAN HIEROGLYPH V001
EGYPTIAN HIEROGLYPH V001A;EGYPTIAN HIEROGLYPH V001B;EGYPTIAN HIEROGLYPH V001C
EGYPTIAN HIEROGLYPH V001D;EGYPTIAN HIEROGLYPH V001E;EGYPTIAN HIEROGLYPH V001F
EGYPTIAN HIEROGLYPH V001G;EGYPTIAN HIEROGLYPH V001H;EGYPTIAN HIEROGLYPH V001I
EGYPTIAN HIEROGLYPH V002;EGYPTIAN HIEROGLYPH V002A;EGYPTIAN HIEROGLYPH V003
EGYPTIAN HIEROGLYPH V004;EGYPTIAN HIEROGLYPH V005;EGYPTIAN HIEROGLYPH V006
EGYPTIAN HIEROGLYPH V007;EGYPTIAN HIEROGLYPH V007A;EGYPTIAN HIEROGLYPH V007B
EGYPTIAN HIEROGLYPH V008;EGYPTIAN HIEROGLYPH V009;EGYPTIAN HIEROGLYPH V010
EGYPTIAN HIEROGLYPH V011;EGYPTIAN HIEROGLYPH V011A;EGYPTIAN HIEROGLYPH V011B
EGYPTIAN HIEROGLYPH V011C;EGYPTIAN HIEROGLYPH V012;EGYPTIAN HIEROGLYPH V012A
EGYPTIAN HIEROGLYPH V012B;EGYPTIAN HIEROGLYPH V013;EGYPTIAN HIEROGLYPH V014
EGYPTIAN HIEROGLYPH V015;EGYPTIAN HIEROGLYPH V016;EGYPTIAN HIEROGLYPH V017
EGYPTIAN HIEROGLYPH V018;EGYPTIAN HIEROGLYPH V019;EGYPTIAN HIEROGLYPH V020
EGYPTIAN HIEROGLYPH V020A;EGYPTIAN HIEROGLYPH V020B;EGYPTIAN HIEROGLYPH V020C
EGYPTIAN HIEROGLYPH V020D;EGYPTIAN HIEROGLYPH V020E;EGYPTIAN HIEROGLYPH V020F
EGYPTIAN HIEROGLYPH V020G;EGYPTIAN HIEROGLYPH V020H;EGYPTIAN HIEROGLYPH V020I
EGYPTIAN HIEROGLYPH V020J;EGYPTIAN HIEROGLYPH V020K;EGYPTIAN HIEROGLYPH V020L
EGYPTIAN HIEROGLYPH V021;EGYPTIAN HIEROGLYPH V022;EGYPTIAN HIEROGLYPH V023
EGYPTIAN HIEROGLYPH V023A;EGYPTIAN HIEROGLYPH V024;EGYPTIAN HIEROGLYPH V025
EGYPTIAN HIEROGLYPH V026;EGYPTIAN HIEROGLYPH V027;EGYPTIAN HIEROGLYPH V028
EGYPTIAN HIEROGLYPH V028A;EGYPTIAN HIEROGLYPH V029;EGYPTIAN HIEROGLYPH V029A
EGYPTIAN HIEROGLYPH V030;EGYPTIAN HIEROGLYPH V030A;EGYPTIAN HIEROGLYPH V031
EGYPTIAN HIEROGLYPH V031A;EGYPTIAN HIEROGLYPH V032;EGYPTIAN HIEROGLYPH V033
EGYPTIAN HIEROGLYPH V033A;EGYPTIAN HIEROGLYPH V034;EGYPTIAN HIEROGLYPH V035
EGYPTIAN HIEROGLYPH V036;EGYPTIAN HIEROGLYPH V037;EGYPTIAN HIEROGLYPH V037A
EGYPTIAN HIEROGLYPH V038;EGYPTIAN HIEROGLYPH V039;EGYPTIAN HIEROGLYPH V040
EGYPTIAN HIEROGLYPH V040A;EGYPTIAN HIEROGLYPH W001;EGYPTIAN HIEROGLYPH W002
EGYPTIAN HIEROGLYPH W003;EGYPTIAN HIEROGLYPH W003A;EGYPTIAN HIEROGLYPH W004
EGYPTIAN HIEROGLYPH W005;EGYPTIAN HIEROGLYPH W006;EGYPTIAN HIEROGLYPH W007
EGYPTIAN HIEROGLYPH W008;EGYPTIAN HIEROGLYPH W009;EGYPTIAN HIEROGLYPH W009A
EGYPTIAN HIEROGLYPH W010;EGYPTIAN HIEROGLYPH W010A;EGYPTIAN HIEROGLYPH W011
EGYPTIAN HIEROGLYPH W012;EGYPTIAN HIEROGLYPH W013;EGYPTIAN HIEROGLYPH W014
EGYPTIAN HIEROGLYPH W014A;EGYPTIAN HIEROGLYPH W015;EGYPTIAN HIEROGLYPH W016
EGYPTIAN HIEROGLYPH W017;EGYPTIAN HIEROGLYPH W017A;EGYPTIAN HIEROGLYPH W018
EGYPTIAN HIEROGLYPH W018A;EGYPTIAN HIEROGLYPH W019;EGYPTIAN HIEROGLYPH W020
EGYPTIAN HIEROGLYPH W021;EGYPTIAN HIEROGLYPH W022;EGYPTIAN HIEROGLYPH W023
EGYPTIAN HIEROGLYPH W024;EGYPTIAN HIEROGLYPH W024A;EGYPTIAN HIEROGLYPH W025
EGYPTIAN HIEROGLYPH X001;EGYPTIAN HIEROGLYPH X002;EGYPTIAN HIEROGLYPH X003
EGYPTIAN HIEROGLYPH X004;EGYPTIAN HIEROGLYPH X004A;EGYPTIAN HIEROGLYPH X004B
EGYPTIAN HIEROGLYPH X005;EGYPTIAN HIEROGLYPH X006;EGYPTIAN HIEROGLYPH X006A
EGYPTIAN HIEROGLYPH X007;EGYPTIAN HIEROGLYPH X008;EGYPTIAN HIEROGLYPH X008A
EGYPTIAN HIEROGLYPH Y001;EGYPTIAN HIEROGLYPH Y001A;EGYPTIAN HIEROGLYPH Y002
EGYPTIAN HIEROGLYPH Y003;EGYPTIAN HIEROGLYPH Y004;EGYPTIAN HIEROGLYPH Y005
EGYPTIAN HIEROGLYPH Y006;EGYPTIAN HIEROGLYPH Y007;EGYPTIAN HIEROGLYPH Y008
EGYPTIAN HIEROGLYPH Z001;EGYPTIAN HIEROGLYPH Z002;EGYPTIAN HIEROGLYPH Z002A
EGYPTIAN HIEROGLYPH Z002B;EGYPTIAN HIEROGLYPH Z002C;EGYPTIAN HIEROGLYPH Z002D
EGYPTIAN HIEROGLYPH Z003;EGYPTIAN HIEROGLYPH Z003A;EGYPTIAN HIEROGLYPH Z003B
EGYPTIAN HIEROGLYPH Z004;EGYPTIAN HIEROGLYPH Z004A;EGYPTIAN HIEROGLYPH Z005
EGYPTIAN HIEROGLYPH Z005A;EGYPTIAN HIEROGLYPH Z006;EGYPTIAN HIEROGLYPH Z007
EGYPTIAN HIEROGLYPH Z008;EGYPTIAN HIEROGLYPH Z009;EGYPTIAN HIEROGLYPH Z010
EGYPTIAN HIEROGLYPH Z011;EGYPTIAN HIEROGLYPH Z012;EGYPTIAN HIEROGLYPH Z013
EGYPTIAN HIEROGLYPH Z014;EGYPTIAN HIEROGLYPH Z015;EGYPTIAN HIEROGLYPH Z015A
EGYPTIAN HIEROGLYPH Z015B;EGYPTIAN HIEROGLYPH Z015C;EGYPTIAN HIEROGLYPH Z015D
EGYPTIAN HIEROGLYPH Z015E"),
  (0x13400, "EGYPTIAN HIEROGLYPH Z015F;EGYPTIAN HIEROGLYPH Z015G;EGYPTIAN HIEROGLYPH Z015H
EGYPTIAN HIEROGLYPH Z015I;EGYPTIAN HIEROGLYPH Z016;EGYPTIAN HIEROGLYPH Z016A
EGYPTIAN HIEROGLYPH Z016B;EGYPTIAN HIEROGLYPH Z016C;EGYPTIAN HIEROGLYPH Z016D
EGYPTIAN HIEROGLYPH Z016E;EGYPTIAN HIEROGLYPH Z016F;EGYPTIAN HIEROGLYPH Z016G
EGYPTIAN HIEROGLYPH Z016H;EGYPTIAN HIEROGLYPH AA001;EGYPTIAN HIEROGLYPH AA002
EGYPTIAN HIEROGLYPH AA003;EGYPTIAN HIEROGLYPH AA004;EGYPTIAN HIEROGLYPH AA005
EGYPTIAN HIEROGLYPH AA006;EGYPTIAN HIEROGLYPH AA007;EGYPTIAN HIEROGLYPH AA007A
EGYPTIAN HIEROGLYPH AA007B;EGYPTIAN HIEROGLYPH AA008;EGYPTIAN HIEROGLYPH AA009
EGYPTIAN HIEROGLYPH AA010;EGYPTIAN HIEROGLYPH AA011;EGYPTIAN HIEROGLYPH AA012
EGYPTIAN HIEROGLYPH AA013;EGYPTIAN HIEROGLYPH AA014;EGYPTIAN HIEROGLYPH AA015
EGYPTIAN HIEROGLYPH AA016;EGYPTIAN HIEROGLYPH AA017;EGYPTIAN HIEROGLYPH AA018
EGYPTIAN HIEROGLYPH AA019;EGYPTIAN HIEROGLYPH AA020;EGYPTIAN HIEROGLYPH AA021
EGYPTIAN HIEROGLYPH AA022;EGYPTIAN HIEROGLYPH AA023;EGYPTIAN HIEROGLYPH AA024
EGYPTIAN HIEROGLYPH AA025;EGYPTIAN HIEROGLYPH AA026;EGYPTIAN HIEROGLYPH AA027
EGYPTIAN HIEROGLYPH AA028;EGYPTIAN HIEROGLYPH AA029;EGYPTIAN HIEROGLYPH AA030
EGYPTIAN HIEROGLYPH AA031;EGYPTIAN HIEROGLYPH AA032"),
  (0x13430, "EGYPTIAN HIEROGLYPH VERTICAL JOINER;EGYPTIAN HIEROGLYPH HORIZONTAL JOINER
EGYPTIAN HIEROGLYPH INSERT AT TOP START;EGYPTIAN HIEROGLYPH INSERT AT BOTTOM START
EGYPTIAN HIEROGLYPH INSERT AT TOP END;EGYPTIAN HIEROGLYPH INSERT AT BOTTOM END
EGYPTIAN HIEROGLYPH OVERLAY MIDDLE;EGYPTIAN HIEROGLYPH BEGIN SEGMENT
EGYPTIAN HIEROGLYPH END SEGMENT"),
  (0x14400, "ANATOLIAN HIEROGLYPH A001;ANATOLIAN HIEROGLYPH A002;ANATOLIAN HIEROGLYPH A003
ANATOLIAN HIEROGLYPH A004;ANATOLIAN HIEROGLYPH A005;ANATOLIAN HIEROGLYPH A006
ANATOLIAN HIEROGLYPH A007;ANATOLIAN HIEROGLYPH A008;ANATOLIAN HIEROGLYPH A009
ANATOLIAN HIEROGLYPH A010;ANATOLIAN HIEROGLYPH A010A;ANATOLIAN HIEROGLYPH A011
ANATOLIAN HIEROGLYPH A012;ANATOLIAN HIEROGLYPH A013;ANATOLIAN HIEROGLYPH A014
ANATOLIAN HIEROGLYPH A015;ANATOLIAN HIEROGLYPH A016;ANATOLIAN HIEROGLYPH A017
ANATOLIAN HIEROGLYPH A018;ANATOLIAN HIEROGLYPH A019;ANATOLIAN HIEROGLYPH A020
ANATOLIAN HIEROGLYPH A021;ANATOLIAN HIEROGLYPH A022;ANATOLIAN HIEROGLYPH A023
ANATOLIAN HIEROGLYPH A024;ANATOLIAN HIEROGLYPH A025;ANATOLIAN HIEROGLYPH A026
ANATOLIAN HIEROGLYPH A026A;ANATOLIAN HIEROGLYPH A027;ANATOLIAN HIEROGLYPH A028
ANATOLIAN HIEROGLYPH A029;ANATOLIAN HIEROGLYPH A030;ANATOLIAN HIEROGLYPH A031
ANATOLIAN HIEROGLYPH A032;ANATOLIAN HIEROGLYPH A033;ANATOLIAN HIEROGLYPH A034
ANATOLIAN HIEROGLYPH A035;ANATOLIAN HIEROGLYPH A036;ANATOLIAN HIEROGLYPH A037
ANATOLIAN HIEROGLYPH A038;ANATOLIAN HIEROGLYPH A039;ANATOLIAN HIEROGLYPH A039A
ANATOLIAN HIEROGLYPH A040;ANATOLIAN HIEROGLYPH A041;ANATOLIAN HIEROGLYPH A041A
ANATOLIAN HIEROGLYPH A042;ANATOLIAN HIEROGLYPH A043;ANATOLIAN HIEROGLYPH A044
ANATOLIAN HIEROGLYPH A045;ANATOLIAN HIEROGLYPH A045A;ANATOLIAN HIEROGLYPH A046
ANATOLIAN HIEROGLYPH A046A;ANATOLIAN HIEROGLYPH A046B;ANATOLIAN HIEROGLYPH A047
ANATOLIAN HIEROGLYPH A048;ANATOLIAN HIEROGLYPH A049;ANATOLIAN HIEROGLYPH A050
ANATOLIAN HIEROGLYPH A051;ANATOLIAN HIEROGLYPH A052;ANATOLIAN HIEROGLYPH A053
ANATOLIAN HIEROGLYPH A054;ANATOLIAN HIEROGLYPH A055;ANATOLIAN HIEROGLYPH A056
ANATOLIAN HIEROGLYPH A057;ANATOLIAN HIEROGLYPH A058;ANATOLIAN HIEROGLYPH A059
ANATOLIAN HIEROGLYPH A060;ANATOLIAN HIEROGLYPH A061;ANATOLIAN HIEROGLYPH A062
ANATOLIAN HIEROGLYPH A063;ANATOLIAN HIEROGLYPH A064;ANATOLIAN HIEROGLYPH A065
ANATOLIAN HIEROGLYPH A066;ANATOLIAN HIEROGLYPH A066A;ANATOLIAN HIEROGLYPH A066B
ANATOLIAN HIEROGLYPH A066C;ANATOLIAN HIEROGLYPH A067;ANATOLIAN HIEROGLYPH A068
ANATOLIAN HIEROGLYPH A069;ANATOLIAN HIEROGLYPH A070;ANATOLIAN HIEROGLYPH A071
ANATOLIAN HIEROGLYPH A072;ANATOLIAN HIEROGLYPH A073;ANATOLIAN HIEROGLYPH A074
ANATOLIAN HIEROGLYPH A075;ANATOLIAN HIEROGLYPH A076;ANATOLIAN HIEROGLYPH A077
ANATOLIAN HIEROGLYPH A078;ANATOLIAN HIEROGLYPH A079;ANATOLIAN HIEROGLYPH A080
ANATOLIAN HIEROGLYPH A081;ANATOLIAN HIEROGLYPH A082;ANATOLIAN HIEROGLYPH A083
ANATOLIAN HIEROGLYPH A084;ANATOLIAN HIEROGLYPH A085;ANATOLIAN HIEROGLYPH A086
ANATOLIAN HIEROGLYPH A087;ANATOLIAN HIEROGLYPH A088;ANATOLIAN HIEROGLYPH A089
ANATOLIAN HIEROGLYPH A090;ANATOLIAN HIEROGLYPH A091;ANATOLIAN HIEROGLYPH A092
ANATOLIAN HIEROGLYPH A093;ANATOLIAN HIEROGLYPH A094;ANATOLIAN HIEROGLYPH A095
ANATOLIAN HIEROGLYPH A096;ANATOLIAN HIEROGLYPH A097;ANATOLIAN HIEROGLYPH A097A
ANATOLIAN HIEROGLYPH A098;ANATOLIAN HIEROGLYPH A098A;ANATOLIAN HIEROGLYPH A099
ANATOLIAN HIEROGLYPH A100;ANATOLIAN HIEROGLYPH A100A;ANATOLIAN HIEROGLYPH A101
ANATOLIAN HIEROGLYPH A101A;ANATOLIAN HIEROGLYPH A102;ANATOLIAN HIEROGLYPH A102A
ANATOLIAN HIEROGLYPH A103;ANATOLIAN HIEROGLYPH A104;ANATOLIAN HIEROGLYPH A104A
ANATOLIAN HIEROGLYPH A104B;ANATOLIAN HIEROGLYPH A104C;ANATOLIAN HIEROGLYPH A105
ANATOLIAN HIEROGLYPH A105A;ANATOLIAN HIEROGLYPH A105B;ANATOLIAN HIEROGLYPH A106
ANATOLIAN HIEROGLYPH A107;ANATOLIAN HIEROGLYPH A107A;ANATOLIAN HIEROGLYPH A107B
ANATOLIAN HIEROGLYPH A107C;ANATOLIAN HIEROGLYPH A108;ANATOLIAN HIEROGLYPH A109
ANATOLIAN HIEROGLYPH A110;ANATOLIAN HIEROGLYPH A110A;ANATOLIAN HIEROGLYPH A110B
ANATOLIAN HIEROGLYPH A111;ANATOLIAN HIEROGLYPH A112;ANATOLIAN HIEROGLYPH A113
ANATOLIAN HIEROGLYPH A114;ANATOLIAN HIEROGLYPH A115;ANATOLIAN HIEROGLYPH A115A
ANATOLIAN HIEROGLYPH A116;ANATOLIAN HIEROGLYPH A117;ANATOLIAN HIEROGLYPH A118
ANATOLIAN HIEROGLYPH A119;ANATOLIAN HIEROGLYPH A120;ANATOLIAN HIEROGLYPH A121
ANATOLIAN HIEROGLYPH A122;ANATOLIAN HIEROGLYPH A123;ANATOLIAN HIEROGLYPH A124
ANATOLIAN HIEROGLYPH A125;ANATOLIAN HIEROGLYPH A125A;ANATOLIAN HIEROGLYPH A126
ANATOLIAN HIEROGLYPH A127;ANATOLIAN HIEROGLYPH A128;ANATOLIAN HIEROGLYPH A129
ANATOLIAN HIEROGLYPH A130;ANATOLIAN HIEROGLYPH A131;ANATOLIAN HIEROGLYPH A132
ANATOLIAN HIEROGLYPH A133;ANATOLIAN HIEROGLYPH A134;ANATOLIAN HIEROGLYPH A135
ANATOLIAN HIEROGLYPH A135A;ANATOLIAN HIEROGLYPH A136;ANATOLIAN HIEROGLYPH A137
ANATOLIAN HIEROGLYPH A138;ANATOLIAN HIEROGLYPH A139;ANATOLIAN HIEROGLYPH A140
ANATOLIAN HIEROGLYPH A141;ANATOLIAN HIEROGLYPH A142;ANATOLIAN HIEROGLYPH A143
ANATOLIAN HIEROGLYPH A144;ANATOLIAN HIEROGLYPH A145;ANATOLIAN HIEROGLYPH A146
ANATOLIAN HIEROGLYPH A147;ANATOLIAN HIEROGLYPH A148;ANATOLIAN HIEROGLYPH A149
ANATOLIAN HIEROGLYPH A150;ANATOLIAN HIEROGLYPH A151;ANATOLIAN HIEROGLYPH A152
ANATOLIAN HIEROGLYPH A153;ANATOLIAN HIEROGLYPH A154;ANATOLIAN HIEROGLYPH A155
ANATOLIAN HIEROGLYPH A156;ANATOLIAN HIEROGLYPH A157;ANATOLIAN HIEROGLYPH A158
ANATOLIAN HIEROGLYPH A159;ANATOLIAN HIEROGLYPH A160;ANATOLIAN HIEROGLYPH A161
ANATOLIAN HIEROGLYPH A162;ANATOLIAN HIEROGLYPH A163;ANATOLIAN HIEROGLYPH A164
ANATOLIAN HIEROGLYPH A165;ANATOLIAN HIEROGLYPH A166;ANATOLIAN HIEROGLYPH A167
ANATOLIAN HIEROGLYPH A168;ANATOLIAN HIEROGLYPH A169;ANATOLIAN HIEROGLYPH A170
ANATOLIAN HIEROGLYPH A171;ANATOLIAN HIEROGLYPH A172;ANATOLIAN HIEROGLYPH A173
ANATOLIAN HIEROGLYPH A174;ANATOLIAN HIEROGLYPH A175;ANATOLIAN HIEROGLYPH A176
ANATOLIAN HIEROGLYPH A177;ANATOLIAN HIEROGLYPH A178;ANATOLIAN HIEROGLYPH A179
ANATOLIAN HIEROGLYPH A180;ANATOLIAN HIEROGLYPH A181;ANATOLIAN HIEROGLYPH A182
ANATOLIAN HIEROGLYPH A183;ANATOLIAN HIEROGLYPH A184;ANATOLIAN HIEROGLYPH A185
ANATOLIAN HIEROGLYPH A186;ANATOLIAN HIEROGLYPH A187;ANATOLIAN HIEROGLYPH A188
ANATOLIAN HIEROGLYPH A189;ANATOLIAN HIEROGLYPH A190;ANATOLIAN HIEROGLYPH A191
ANATOLIAN HIEROGLYPH A192;ANATOLIAN HIEROGLYPH A193;ANATOLIAN HIEROGLYPH A194
ANATOLIAN HIEROGLYPH A195;ANATOLIAN HIEROGLYPH A196;ANATOLIAN HIEROGLYPH A197
ANATOLIAN HIEROGLYPH A198;ANATOLIAN HIEROGLYPH A199;ANATOLIAN HIEROGLYPH A200
ANATOLIAN HIEROGLYPH A201;ANATOLIAN HIEROGLYPH A202;ANATOLIAN HIEROGLYPH A202A
ANATOLIAN HIEROGLYPH A202B;ANATOLIAN HIEROGLYPH A203;ANATOLIAN HIEROGLYPH A204
ANATOLIAN HIEROGLYPH A205;ANATOLIAN HIEROGLYPH A206;ANATOLIAN HIEROGLYPH A207
ANATOLIAN HIEROGLYPH A207A;ANATOLIAN HIEROGLYPH A208;ANATOLIAN HIEROGLYPH A209
ANATOLIAN HIEROGLYPH A209A;ANATOLIAN HIEROGLYPH A210;ANATOLIAN HIEROGLYPH A211
ANATOLIAN HIEROGLYPH A212;ANATOLIAN HIEROGLYPH A213;ANATOLIAN HIEROGLYPH A214
ANATOLIAN HIEROGLYPH A215;ANATOLIAN HIEROGLYPH A215A;ANATOLIAN HIEROGLYPH A216
ANATOLIAN HIEROGLYPH A216A;ANATOLIAN HIEROGLYPH A217;ANATOLIAN HIEROGLYPH A218
ANATOLIAN HIEROGLYPH A219;ANATOLIAN HIEROGLYPH A220;ANATOLIAN HIEROGLYPH A221
ANATOLIAN HIEROGLYPH A222;ANATOLIAN HIEROGLYPH A223;ANATOLIAN HIEROGLYPH A224
ANATOLIAN HIEROGLYPH A225;ANATOLIAN HIEROGLYPH A226;ANATOLIAN HIEROGLYPH A227
ANATOLIAN HIEROGLYPH A227A;ANATOLIAN HIEROGLYPH A228;ANATOLIAN HIEROGLYPH A229
ANATOLIAN HIEROGLYPH A230;ANATOLIAN HIEROGLYPH A231;ANATOLIAN HIEROGLYPH A232
ANATOLIAN HIEROGLYPH A233;ANATOLIAN HIEROGLYPH A234;ANATOLIAN HIEROGLYPH A235
ANATOLIAN HIEROGLYPH A236;ANATOLIAN HIEROGLYPH A237;ANATOLIAN HIEROGLYPH A238
ANATOLIAN HIEROGLYPH A239;ANATOLIAN HIEROGLYPH A240;ANATOLIAN HIEROGLYPH A241
ANATOLIAN HIEROGLYPH A242;ANATOLIAN HIEROGLYPH A243;ANATOLIAN HIEROGLYPH A244
ANATOLIAN HIEROGLYPH A245;ANATOLIAN HIEROGLYPH A246;ANATOLIAN HIEROGLYPH A247
ANATOLIAN HIEROGLYPH A248;ANATOLIAN HIEROGLYPH A249;ANATOLIAN HIEROGLYPH A250
ANATOLIAN HIEROGLYPH A251;ANATOLIAN HIEROGLYPH A252;ANATOLIAN HIEROGLYPH A253
ANATOLIAN HIEROGLYPH A254;ANATOLIAN HIEROGLYPH A255;ANATOLIAN HIEROGLYPH A256
ANATOLIAN HIEROGLYPH A257;ANATOLIAN HIEROGLYPH A258;ANATOLIAN HIEROGLYPH A259
ANATOLIAN HIEROGLYPH A260;ANATOLIAN HIEROGLYPH A261;ANATOLIAN HIEROGLYPH A262
ANATOLIAN HIEROGLYPH A263;ANATOLIAN HIEROGLYPH A264;ANATOLIAN HIEROGLYPH A265
ANATOLIAN HIEROGLYPH A266;ANATOLIAN HIEROGLYPH A267;ANATOLIAN HIEROGLYPH A267A
ANATOLIAN HIEROGLYPH A268;ANATOLIAN HIEROGLYPH A269;ANATOLIAN HIEROGLYPH A270
ANATOLIAN HIEROGLYPH A271;ANATOLIAN HIEROGLYPH A272;ANATOLIAN HIEROGLYPH A273
ANATOLIAN HIEROGLYPH A274;ANATOLIAN HIEROGLYPH A275;ANATOLIAN HIEROGLYPH A276
ANATOLIAN HIEROGLYPH A277;ANATOLIAN HIEROGLYPH A278;ANATOLIAN HIEROGLYPH A279
ANATOLIAN HIEROGLYPH A280;ANATOLIAN HIEROGLYPH A281;ANATOLIAN HIEROGLYPH A282
ANATOLIAN HIEROGLYPH A283;ANATOLIAN HIEROGLYPH A284;ANATOLIAN HIEROGLYPH A285
ANATOLIAN HIEROGLYPH A286;ANATOLIAN HIEROGLYPH A287;ANATOLIAN HIEROGLYPH A288
ANATOLIAN HIEROGLYPH A289;ANATOLIAN HIEROGLYPH A289A;ANATOLIAN HIEROGLYPH A290
ANATOLIAN HIEROGLYPH A291;ANATOLIAN HIEROGLYPH A292;ANATOLIAN HIEROGLYPH A293
ANATOLIAN HIEROGLYPH A294;ANATOLIAN HIEROGLYPH A294A;ANATOLIAN HIEROGLYPH A295
ANATOLIAN HIEROGLYPH A296;ANATOLIAN HIEROGLYPH A297;ANATOLIAN HIEROGLYPH A298
ANATOLIAN HIEROGLYPH A299;ANATOLIAN HIEROGLYPH A299A;ANATOLIAN HIEROGLYPH A300
ANATOLIAN HIEROGLYPH A301;ANATOLIAN HIEROGLYPH A302;ANATOLIAN HIEROGLYPH A303
ANATOLIAN HIEROGLYPH A304;ANATOLIAN HIEROGLYPH A305;ANATOLIAN HIEROGLYPH A306
ANATOLIAN HIEROGLYPH A307;ANATOLIAN HIEROGLYPH A308;ANATOLIAN HIEROGLYPH A309
ANATOLIAN HIEROGLYPH A309A;ANATOLIAN HIEROGLYPH A310;ANATOLIAN HIEROGLYPH A311
ANATOLIAN HIEROGLYPH A312;ANATOLIAN HIEROGLYPH A313;ANATOLIAN HIEROGLYPH A314
ANATOLIAN HIEROGLYPH A315;ANATOLIAN HIEROGLYPH A316;ANATOLIAN HIEROGLYPH A317
ANATOLIAN HIEROGLYPH A318;ANATOLIAN HIEROGLYPH A319;ANATOLIAN HIEROGLYPH A320
ANATOLIAN HIEROGLYPH A321;ANATOLIAN HIEROGLYPH A322;ANATOLIAN HIEROGLYPH A323
ANATOLIAN HIEROGLYPH A324;ANATOLIAN HIEROGLYPH A325;ANATOLIAN HIEROGLYPH A326
ANATOLIAN HIEROGLYPH A327;ANATOLIAN HIEROGLYPH A328;ANATOLIAN HIEROGLYPH A329
ANATOLIAN HIEROGLYPH A329A;ANATOLIAN HIEROGLYPH A330;ANATOLIAN HIEROGLYPH A331
ANATOLIAN HIEROGLYPH A332A;ANATOLIAN HIEROGLYPH A332B;ANATOLIAN HIEROGLYPH A332C
ANATOLIAN HIEROGLYPH A333;ANATOLIAN HIEROGLYPH A334;ANATOLIAN HIEROGLYPH A335
ANATOLIAN HIEROGLYPH A336;ANATOLIAN HIEROGLYPH A336A;ANATOLIAN HIEROGLYPH A336B
ANATOLIAN HIEROGLYPH A336C;ANATOLIAN HIEROGLYPH A337;ANATOLIAN HIEROGLYPH A338
ANATOLIAN HIEROGLYPH A339;ANATOLIAN HIEROGLYPH A340;ANATOLIAN HIEROGLYPH A341
ANATOLIAN HIEROGLYPH A342;ANATOLIAN HIEROGLYPH A343;ANATOLIAN HIEROGLYPH A344
ANATOLIAN HIEROGLYPH A345;ANATOLIAN HIEROGLYPH A346;ANATOLIAN HIEROGLYPH A347
ANATOLIAN HIEROGLYPH A348;ANATOLIAN HIEROGLYPH A349;ANATOLIAN HIEROGLYPH A350
ANATOLIAN HIEROGLYPH A351;ANATOLIAN HIEROGLYPH A352;ANATOLIAN HIEROGLYPH A353
ANATOLIAN HIEROGLYPH A354;ANATOLIAN HIEROGLYPH A355;ANATOLIAN HIEROGLYPH A356
ANATOLIAN HIEROGLYPH A357;ANATOLIAN HIEROGLYPH A358;ANATOLIAN HIEROGLYPH A359
ANATOLIAN HIEROGLYPH A359A;ANATOLIAN HIEROGLYPH A360;ANATOLIAN HIEROGLYPH A361
ANATOLIAN HIEROGLYPH A362;ANATOLIAN HIEROGLYPH A363;ANATOLIAN HIEROGLYPH A364
ANATOLIAN HIEROGLYPH A364A;ANATOLIAN HIEROGLYPH A365;ANATOLIAN HIEROGLYPH A366
ANATOLIAN HIEROGLYPH A367;ANATOLIAN HIEROGLYPH A368;ANATOLIAN HIEROGLYPH A368A
ANATOLIAN HIEROGLYPH A369;ANATOLIAN HIEROGLYPH A370;ANATOLIAN HIEROGLYPH A371
ANATOLIAN HIEROGLYPH A371A;ANATOLIAN HIEROGLYPH A372;ANATOLIAN HIEROGLYPH A373
ANATOLIAN HIEROGLYPH A374;ANATOLIAN HIEROGLYPH A375;ANATOLIAN HIEROGLYPH A376
ANATOLIAN HIEROGLYPH A377;ANATOLIAN HIEROGLYPH A378;ANATOLIAN HIEROGLYPH A379
ANATOLIAN HIEROGLYPH A380;ANATOLIAN HIEROGLYPH A381;ANATOLIAN HIEROGLYPH A381A
ANATOLIAN HIEROGLYPH A382;ANATOLIAN HIEROGLYPH A383 RA OR RI;ANATOLIAN HIEROGLYPH A383A
ANATOLIAN HIEROGLYPH A384;ANATOLIAN HIEROGLYPH A385;ANATOLIAN HIEROGLYPH A386
ANATOLIAN HIEROGLYPH A386A;ANATOLIAN HIEROGLYPH A387;ANATOLIAN HIEROGLYPH A388
ANATOLIAN HIEROGLYPH A389;ANATOLIAN HIEROGLYPH A390;ANATOLIAN HIEROGLYPH A391
ANATOLIAN HIEROGLYPH A392;ANATOLIAN HIEROGLYPH A393 EIGHT;ANATOLIAN HIEROGLYPH A394
ANATOLIAN HIEROGLYPH A395;ANATOLIAN HIEROGLYPH A396;ANATOLIAN HIEROGLYPH A397
ANATOLIAN HIEROGLYPH A398;ANATOLIAN HIEROGLYPH A399;ANATOLIAN HIEROGLYPH A400
ANATOLIAN HIEROGLYPH A401;ANATOLIAN HIEROGLYPH A402;ANATOLIAN HIEROGLYPH A403
ANATOLIAN HIEROGLYPH A404;ANATOLIAN HIEROGLYPH A405;ANATOLIAN HIEROGLYPH A406
ANATOLIAN HIEROGLYPH A407;ANATOLIAN HIEROGLYPH A408;ANATOLIAN HIEROGLYPH A409
ANATOLIAN HIEROGLYPH A410 BEGIN LOGOGRAM MARK;ANATOLIAN HIEROGLYPH A410A END LOGOGRAM MARK
ANATOLIAN HIEROGLYPH A411;ANATOLIAN HIEROGLYPH A412;ANATOLIAN HIEROGLYPH A413
ANATOLIAN HIEROGLYPH A414;ANATOLIAN HIEROGLYPH A415;ANATOLIAN HIEROGLYPH A416
ANATOLIAN HIEROGLYPH A417;ANATOLIAN HIEROGLYPH A418;ANATOLIAN HIEROGLYPH A419
ANATOLIAN HIEROGLYPH A420;ANATOLIAN HIEROGLYPH A421;ANATOLIAN HIEROGLYPH A422
ANATOLIAN HIEROGLYPH A423;ANATOLIAN HIEROGLYPH A424;ANATOLIAN HIEROGLYPH A425
ANATOLIAN HIEROGLYPH A426;ANATOLIAN HIEROGLYPH A427;ANATOLIAN HIEROGLYPH A428
ANATOLIAN HIEROGLYPH A429;ANATOLIAN HIEROGLYPH A430;ANATOLIAN HIEROGLYPH A431
ANATOLIAN HIEROGLYPH A432;ANATOLIAN HIEROGLYPH A433;ANATOLIAN HIEROGLYPH A434
ANATOLIAN HIEROGLYPH A435;ANATOLIAN HIEROGLYPH A436;ANATOLIAN HIEROGLYPH A437
ANATOLIAN HIEROGLYPH A438;ANATOLIAN HIEROGLYPH A439;ANATOLIAN HIEROGLYPH A440
ANATOLIAN HIEROGLYPH A441;ANATOLIAN HIEROGLYPH A442;ANATOLIAN HIEROGLYPH A443
ANATOLIAN HIEROGLYPH A444;ANATOLIAN HIEROGLYPH A445;ANATOLIAN HIEROGLYPH A446
ANATOLIAN HIEROGLYPH A447;ANATOLIAN HIEROGLYPH A448;ANATOLIAN HIEROGLYPH A449
ANATOLIAN HIEROGLYPH A450;ANATOLIAN HIEROGLYPH A450A;ANATOLIAN HIEROGLYPH A451
ANATOLIAN HIEROGLYPH A452;ANATOLIAN HIEROGLYPH A453;ANATOLIAN HIEROGLYPH A454
ANATOLIAN HIEROGLYPH A455;ANATOLIAN HIEROGLYPH A456;ANATOLIAN HIEROGLYPH A457
ANATOLIAN HIEROGLYPH A457A;ANATOLIAN HIEROGLYPH A458;ANATOLIAN HIEROGLYPH A459
ANATOLIAN HIEROGLYPH A460;ANATOLIAN HIEROGLYPH A461;ANATOLIAN HIEROGLYPH A462
ANATOLIAN HIEROGLYPH A463;ANATOLIAN HIEROGLYPH A464;ANATOLIAN HIEROGLYPH A465
ANATOLIAN HIEROGLYPH A466;ANATOLIAN HIEROGLYPH A467;ANATOLIAN HIEROGLYPH A468
ANATOLIAN HIEROGLYPH A469;ANATOLIAN HIEROGLYPH A470;ANATOLIAN HIEROGLYPH A471
ANATOLIAN HIEROGLYPH A472;ANATOLIAN HIEROGLYPH A473;ANATOLIAN HIEROGLYPH A474
ANATOLIAN HIEROGLYPH A475;ANATOLIAN HIEROGLYPH A476;ANATOLIAN HIEROGLYPH A477
ANATOLIAN HIEROGLYPH A478;ANATOLIAN HIEROGLYPH A479;ANATOLIAN HIEROGLYPH A480
ANATOLIAN HIEROGLYPH A481;ANATOLIAN HIEROGLYPH A482;ANATOLIAN HIEROGLYPH A483
ANATOLIAN HIEROGLYPH A484;ANATOLIAN HIEROGLYPH A485;ANATOLIAN HIEROGLYPH A486
ANATOLIAN HIEROGLYPH A487;ANATOLIAN HIEROGLYPH A488;ANATOLIAN HIEROGLYPH A489
ANATOLIAN HIEROGLYPH A490;ANATOLIAN HIEROGLYPH A491;ANATOLIAN HIEROGLYPH A492
ANATOLIAN HIEROGLYPH A493;ANATOLIAN HIEROGLYPH A494;ANATOLIAN HIEROGLYPH A495
ANATOLIAN HIEROGLYPH A496;ANATOLIAN HIEROGLYPH A497;ANATOLIAN HIEROGLYPH A501
ANATOLIAN HIEROGLYPH A502;ANATOLIAN HIEROGLYPH A503;ANATOLIAN HIEROGLYPH A504
ANATOLIAN HIEROGLYPH A505;ANATOLIAN HIEROGLYPH A506;ANATOLIAN HIEROGLYPH A507
ANATOLIAN HIEROGLYPH A508;ANATOLIAN HIEROGLYPH A509;ANATOLIAN HIEROGLYPH A510
ANATOLIAN HIEROGLYPH A511;ANATOLIAN HIEROGLYPH A512;ANATOLIAN HIEROGLYPH A513
ANATOLIAN HIEROGLYPH A514;ANATOLIAN HIEROGLYPH A515;ANATOLIAN HIEROGLYPH A516
ANATOLIAN HIEROGLYPH A517;ANATOLIAN HIEROGLYPH A518;ANATOLIAN HIEROGLYPH A519
ANATOLIAN HIEROGLYPH A520;ANATOLIAN HIEROGLYPH A521;ANATOLIAN HIEROGLYPH A522
ANATOLIAN HIEROGLYPH A523;ANATOLIAN HIEROGLYPH A524;ANATOLIAN HIEROGLYPH A525
ANATOLIAN HIEROGLYPH A526;ANATOLIAN HIEROGLYPH A527;ANATOLIAN HIEROGLYPH A528
ANATOLIAN HIEROGLYPH A529;ANATOLIAN HIEROGLYPH A530"),
  (0x16800, "BAMUM LETTER PHASE-A NGKUE MFON;BAMUM LETTER PHASE-A GBIEE FON
BAMUM LETTER PHASE-A PON MFON PIPAEMGBIEE;BAMUM LETTER PHASE-A PON MFON PIPAEMBA
BAMUM LETTER PHASE-A NAA MFON;BAMUM LETTER PHASE-A SHUENSHUET;BAMUM LETTER PHASE-A TITA MFON
BAMUM LETTER PHASE-A NZA MFON;BAMUM LETTER PHASE-A SHINDA PA NJI
BAMUM LETTER PHASE-A PON PA NJI PIPAEMGBIEE;BAMUM LETTER PHASE-A PON PA NJI PIPAEMBA
BAMUM LETTER PHASE-A MAEMBGBIEE;BAMUM LETTER PHASE-A TU MAEMBA;BAMUM LETTER PHASE-A NGANGU
BAMUM LETTER PHASE-A MAEMVEUX;BAMUM LETTER PHASE-A MANSUAE;BAMUM LETTER PHASE-A MVEUAENGAM
BAMUM LETTER PHASE-A SEUNYAM;BAMUM LETTER PHASE-A NTOQPEN;BAMUM LETTER PHASE-A KEUKEUTNDA
BAMUM LETTER PHASE-A NKINDI;BAMUM LETTER PHASE-A SUU;BAMUM LETTER PHASE-A NGKUENZEUM
BAMUM LETTER PHASE-A LAPAQ;BAMUM LETTER PHASE-A LET KUT;BAMUM LETTER PHASE-A NTAP MFAA
BAMUM LETTER PHASE-A MAEKEUP;BAMUM LETTER PHASE-A PASHAE;BAMUM LETTER PHASE-A GHEUAERAE
BAMUM LETTER PHASE-A PAMSHAE;BAMUM LETTER PHASE-A MON NGGEUAET;BAMUM LETTER PHASE-A NZUN MEUT
BAMUM LETTER PHASE-A U YUQ NAE;BAMUM LETTER PHASE-A GHEUAEGHEUAE;BAMUM LETTER PHASE-A NTAP NTAA
BAMUM LETTER PHASE-A SISA;BAMUM LETTER PHASE-A MGBASA;BAMUM LETTER PHASE-A MEUNJOMNDEUQ
BAMUM LETTER PHASE-A MOOMPUQ;BAMUM LETTER PHASE-A KAFA;BAMUM LETTER PHASE-A PA LEERAEWA
BAMUM LETTER PHASE-A NDA LEERAEWA;BAMUM LETTER PHASE-A PET;BAMUM LETTER PHASE-A MAEMKPEN
BAMUM LETTER PHASE-A NIKA;BAMUM LETTER PHASE-A PUP;BAMUM LETTER PHASE-A TUAEP
BAMUM LETTER PHASE-A LUAEP;BAMUM LETTER PHASE-A SONJAM;BAMUM LETTER PHASE-A TEUTEUWEN
BAMUM LETTER PHASE-A MAENYI;BAMUM LETTER PHASE-A KET;BAMUM LETTER PHASE-A NDAANGGEUAET
BAMUM LETTER PHASE-A KUOQ;BAMUM LETTER PHASE-A MOOMEUT;BAMUM LETTER PHASE-A SHUM
BAMUM LETTER PHASE-A LOMMAE;BAMUM LETTER PHASE-A FIRI;BAMUM LETTER PHASE-A ROM
BAMUM LETTER PHASE-A KPOQ;BAMUM LETTER PHASE-A SOQ;BAMUM LETTER PHASE-A MAP PIEET
BAMUM LETTER PHASE-A SHIRAE;BAMUM LETTER PHASE-A NTAP;BAMUM LETTER PHASE-A SHOQ NSHUT YUM
BAMUM LETTER PHASE-A NYIT MONGKEUAEQ;BAMUM LETTER PHASE-A PAARAE;BAMUM LETTER PHASE-A NKAARAE
BAMUM LETTER PHASE-A UNKNOWN;BAMUM LETTER PHASE-A NGGEN;BAMUM LETTER PHASE-A MAESI
BAMUM LETTER PHASE-A NJAM;BAMUM LETTER PHASE-A MBANYI;BAMUM LETTER PHASE-A NYET
BAMUM LETTER PHASE-A TEUAEN;BAMUM LETTER PHASE-A SOT;BAMUM LETTER PHASE-A PAAM
BAMUM LETTER PHASE-A NSHIEE;BAMUM LETTER PHASE-A MAEM;BAMUM LETTER PHASE-A NYI
BAMUM LETTER PHASE-A KAQ;BAMUM LETTER PHASE-A NSHA;BAMUM LETTER PHASE-A VEE
BAMUM LETTER PHASE-A LU;BAMUM LETTER PHASE-A NEN;BAMUM LETTER PHASE-A NAQ
BAMUM LETTER PHASE-A MBAQ;BAMUM LETTER PHASE-B NSHUET;BAMUM LETTER PHASE-B TU MAEMGBIEE
BAMUM LETTER PHASE-B SIEE;BAMUM LETTER PHASE-B SET TU;BAMUM LETTER PHASE-B LOM NTEUM
BAMUM LETTER PHASE-B MBA MAELEE;BAMUM LETTER PHASE-B KIEEM;BAMUM LETTER PHASE-B YEURAE
BAMUM LETTER PHASE-B MBAARAE;BAMUM LETTER PHASE-B KAM;BAMUM LETTER PHASE-B PEESHI
BAMUM LETTER PHASE-B YAFU LEERAEWA;BAMUM LETTER PHASE-B LAM NSHUT NYAM
BAMUM LETTER PHASE-B NTIEE SHEUOQ;BAMUM LETTER PHASE-B NDU NJAA;BAMUM LETTER PHASE-B GHEUGHEUAEM
BAMUM LETTER PHASE-B PIT;BAMUM LETTER PHASE-B TU NSIEE;BAMUM LETTER PHASE-B SHET NJAQ
BAMUM LETTER PHASE-B SHEUAEQTU;BAMUM LETTER PHASE-B MFON TEUAEQ;BAMUM LETTER PHASE-B MBIT MBAAKET
BAMUM LETTER PHASE-B NYI NTEUM;BAMUM LETTER PHASE-B KEUPUQ;BAMUM LETTER PHASE-B GHEUGHEN
BAMUM LETTER PHASE-B KEUYEUX;BAMUM LETTER PHASE-B LAANAE;BAMUM LETTER PHASE-B PARUM
BAMUM LETTER PHASE-B VEUM;BAMUM LETTER PHASE-B NGKINDI MVOP;BAMUM LETTER PHASE-B NGGEU MBU
BAMUM LETTER PHASE-B WUAET;BAMUM LETTER PHASE-B SAKEUAE;BAMUM LETTER PHASE-B TAAM
BAMUM LETTER PHASE-B MEUQ;BAMUM LETTER PHASE-B NGGUOQ;BAMUM LETTER PHASE-B NGGUOQ LARGE
BAMUM LETTER PHASE-B MFIYAQ;BAMUM LETTER PHASE-B SUE;BAMUM LETTER PHASE-B MBEURI
BAMUM LETTER PHASE-B MONTIEEN;BAMUM LETTER PHASE-B NYAEMAE;BAMUM LETTER PHASE-B PUNGAAM
BAMUM LETTER PHASE-B MEUT NGGEET;BAMUM LETTER PHASE-B FEUX;BAMUM LETTER PHASE-B MBUOQ
BAMUM LETTER PHASE-B FEE;BAMUM LETTER PHASE-B KEUAEM;BAMUM LETTER PHASE-B MA NJEUAENA
BAMUM LETTER PHASE-B MA NJUQA;BAMUM LETTER PHASE-B LET;BAMUM LETTER PHASE-B NGGAAM
BAMUM LETTER PHASE-B NSEN;BAMUM LETTER PHASE-B MA;BAMUM LETTER PHASE-B KIQ
BAMUM LETTER PHASE-B NGOM;BAMUM LETTER PHASE-C NGKUE MAEMBA;BAMUM LETTER PHASE-C NZA
BAMUM LETTER PHASE-C YUM;BAMUM LETTER PHASE-C WANGKUOQ;BAMUM LETTER PHASE-C NGGEN
BAMUM LETTER PHASE-C NDEUAEREE;BAMUM LETTER PHASE-C NGKAQ;BAMUM LETTER PHASE-C GHARAE
BAMUM LETTER PHASE-C MBEEKEET;BAMUM LETTER PHASE-C GBAYI;BAMUM LETTER PHASE-C NYIR MKPARAQ MEUN
BAMUM LETTER PHASE-C NTU MBIT;BAMUM LETTER PHASE-C MBEUM;BAMUM LETTER PHASE-C PIRIEEN
BAMUM LETTER PHASE-C NDOMBU;BAMUM LETTER PHASE-C MBAA CABBAGE-TREE
BAMUM LETTER PHASE-C KEUSHEUAEP;BAMUM LETTER PHASE-C GHAP;BAMUM LETTER PHASE-C KEUKAQ
BAMUM LETTER PHASE-C YU MUOMAE;BAMUM LETTER PHASE-C NZEUM;BAMUM LETTER PHASE-C MBUE
BAMUM LETTER PHASE-C NSEUAEN;BAMUM LETTER PHASE-C MBIT;BAMUM LETTER PHASE-C YEUQ
BAMUM LETTER PHASE-C KPARAQ;BAMUM LETTER PHASE-C KAA;BAMUM LETTER PHASE-C SEUX
BAMUM LETTER PHASE-C NDIDA;BAMUM LETTER PHASE-C TAASHAE;BAMUM LETTER PHASE-C NJUEQ
BAMUM LETTER PHASE-C TITA YUE;BAMUM LETTER PHASE-C SUAET;BAMUM LETTER PHASE-C NGGUAEN NYAM
BAMUM LETTER PHASE-C VEUX;BAMUM LETTER PHASE-C NANSANAQ;BAMUM LETTER PHASE-C MA KEUAERI
BAMUM LETTER PHASE-C NTAA;BAMUM LETTER PHASE-C NGGUON;BAMUM LETTER PHASE-C LAP
BAMUM LETTER PHASE-C MBIRIEEN;BAMUM LETTER PHASE-C MGBASAQ;BAMUM LETTER PHASE-C NTEUNGBA
BAMUM LETTER PHASE-C TEUTEUX;BAMUM LETTER PHASE-C NGGUM;BAMUM LETTER PHASE-C FUE
BAMUM LETTER PHASE-C NDEUT;BAMUM LETTER PHASE-C NSA;BAMUM LETTER PHASE-C NSHAQ
BAMUM LETTER PHASE-C BUNG;BAMUM LETTER PHASE-C VEUAEPEN;BAMUM LETTER PHASE-C MBERAE
BAMUM LETTER PHASE-C RU;BAMUM LETTER PHASE-C NJAEM;BAMUM LETTER PHASE-C LAM
BAMUM LETTER PHASE-C TITUAEP;BAMUM LETTER PHASE-C NSUOT NGOM;BAMUM LETTER PHASE-C NJEEEE
BAMUM LETTER PHASE-C KET;BAMUM LETTER PHASE-C NGGU;BAMUM LETTER PHASE-C MAESI
BAMUM LETTER PHASE-C MBUAEM;BAMUM LETTER PHASE-C LU;BAMUM LETTER PHASE-C KUT
BAMUM LETTER PHASE-C NJAM;BAMUM LETTER PHASE-C NGOM;BAMUM LETTER PHASE-C WUP
BAMUM LETTER PHASE-C NGGUEET;BAMUM LETTER PHASE-C NSOM;BAMUM LETTER PHASE-C NTEN
BAMUM LETTER PHASE-C KUOP NKAARAE;BAMUM LETTER PHASE-C NSUN;BAMUM LETTER PHASE-C NDAM
BAMUM LETTER PHASE-C MA NSIEE;BAMUM LETTER PHASE-C YAA;BAMUM LETTER PHASE-C NDAP
BAMUM LETTER PHASE-C SHUEQ;BAMUM LETTER PHASE-C SETFON;BAMUM LETTER PHASE-C MBI
BAMUM LETTER PHASE-C MAEMBA;BAMUM LETTER PHASE-C MBANYI;BAMUM LETTER PHASE-C KEUSEUX
BAMUM LETTER PHASE-C MBEUX;BAMUM LETTER PHASE-C KEUM;BAMUM LETTER PHASE-C MBAA PICKET
BAMUM LETTER PHASE-C YUWOQ;BAMUM LETTER PHASE-C NJEUX;BAMUM LETTER PHASE-C MIEE
BAMUM LETTER PHASE-C MUAE;BAMUM LETTER PHASE-C SHIQ;BAMUM LETTER PHASE-C KEN LAW
BAMUM LETTER PHASE-C KEN FATIGUE;BAMUM LETTER PHASE-C NGAQ;BAMUM LETTER PHASE-C NAQ
BAMUM LETTER PHASE-C LIQ;BAMUM LETTER PHASE-C PIN;BAMUM LETTER PHASE-C PEN
BAMUM LETTER PHASE-C TET;BAMUM LETTER PHASE-D MBUO;BAMUM LETTER PHASE-D WAP
BAMUM LETTER PHASE-D NJI;BAMUM LETTER PHASE-D MFON;BAMUM LETTER PHASE-D NJIEE
BAMUM LETTER PHASE-D LIEE;BAMUM LETTER PHASE-D NJEUT;BAMUM LETTER PHASE-D NSHEE
BAMUM LETTER PHASE-D NGGAAMAE;BAMUM LETTER PHASE-D NYAM;BAMUM LETTER PHASE-D WUAEN
BAMUM LETTER PHASE-D NGKUN;BAMUM LETTER PHASE-D SHEE;BAMUM LETTER PHASE-D NGKAP
BAMUM LETTER PHASE-D KEUAETMEUN;BAMUM LETTER PHASE-D TEUT;BAMUM LETTER PHASE-D SHEUAE
BAMUM LETTER PHASE-D NJAP;BAMUM LETTER PHASE-D SUE;BAMUM LETTER PHASE-D KET
BAMUM LETTER PHASE-D YAEMMAE;BAMUM LETTER PHASE-D KUOM;BAMUM LETTER PHASE-D SAP
BAMUM LETTER PHASE-D MFEUT;BAMUM LETTER PHASE-D NDEUX;BAMUM LETTER PHASE-D MALEERI
BAMUM LETTER PHASE-D MEUT;BAMUM LETTER PHASE-D SEUAEQ;BAMUM LETTER PHASE-D YEN
BAMUM LETTER PHASE-D NJEUAEM;BAMUM LETTER PHASE-D KEUOT MBUAE;BAMUM LETTER PHASE-D NGKEURI
BAMUM LETTER PHASE-D TU;BAMUM LETTER PHASE-D GHAA;BAMUM LETTER PHASE-D NGKYEE
BAMUM LETTER PHASE-D FEUFEUAET;BAMUM LETTER PHASE-D NDEE;BAMUM LETTER PHASE-D MGBOFUM
BAMUM LETTER PHASE-D LEUAEP;BAMUM LETTER PHASE-D NDON;BAMUM LETTER PHASE-D MONI
BAMUM LETTER PHASE-D MGBEUN;BAMUM LETTER PHASE-D PUUT;BAMUM LETTER PHASE-D MGBIEE
BAMUM LETTER PHASE-D MFO;BAMUM LETTER PHASE-D LUM;BAMUM LETTER PHASE-D NSIEEP
BAMUM LETTER PHASE-D MBAA;BAMUM LETTER PHASE-D KWAET;BAMUM LETTER PHASE-D NYET
BAMUM LETTER PHASE-D TEUAEN;BAMUM LETTER PHASE-D SOT;BAMUM LETTER PHASE-D YUWOQ
BAMUM LETTER PHASE-D KEUM;BAMUM LETTER PHASE-D RAEM;BAMUM LETTER PHASE-D TEEEE
BAMUM LETTER PHASE-D NGKEUAEQ;BAMUM LETTER PHASE-D MFEUAE;BAMUM LETTER PHASE-D NSIEET
BAMUM LETTER PHASE-D KEUP;BAMUM LETTER PHASE-D PIP;BAMUM LETTER PHASE-D PEUTAE
BAMUM LETTER PHASE-D NYUE;BAMUM LETTER PHASE-D LET;BAMUM LETTER PHASE-D NGGAAM
BAMUM LETTER PHASE-D MFIEE;BAMUM LETTER PHASE-D NGGWAEN;BAMUM LETTER PHASE-D YUOM
BAMUM LETTER PHASE-D PAP;BAMUM LETTER PHASE-D YUOP;BAMUM LETTER PHASE-D NDAM
BAMUM LETTER PHASE-D NTEUM;BAMUM LETTER PHASE-D SUAE;BAMUM LETTER PHASE-D KUN
BAMUM LETTER PHASE-D NGGEUX;BAMUM LETTER PHASE-D NGKIEE;BAMUM LETTER PHASE-D TUOT
BAMUM LETTER PHASE-D MEUN;BAMUM LETTER PHASE-D KUQ;BAMUM LETTER PHASE-D NSUM
BAMUM LETTER PHASE-D TEUN;BAMUM LETTER PHASE-D MAENJET;BAMUM LETTER PHASE-D NGGAP
BAMUM LETTER PHASE-D LEUM;BAMUM LETTER PHASE-D NGGUOM;BAMUM LETTER PHASE-D NSHUT
BAMUM LETTER PHASE-D NJUEQ;BAMUM LETTER PHASE-D GHEUAE;BAMUM LETTER PHASE-D KU
BAMUM LETTER PHASE-D REN OLD;BAMUM LETTER PHASE-D TAE;BAMUM LETTER PHASE-D TOQ
BAMUM LETTER PHASE-D NYI;BAMUM LETTER PHASE-D RII;BAMUM LETTER PHASE-D LEEEE
BAMUM LETTER PHASE-D MEEEE;BAMUM LETTER PHASE-D M;BAMUM LETTER PHASE-D SUU
BAMUM LETTER PHASE-D MU;BAMUM LETTER PHASE-D SHII;BAMUM LETTER PHASE-D SHEUX
BAMUM LETTER PHASE-D KYEE;BAMUM LETTER PHASE-D NU;BAMUM LETTER PHASE-D SHU
BAMUM LETTER PHASE-D NTEE;BAMUM LETTER PHASE-D PEE;BAMUM LETTER PHASE-D NI
BAMUM LETTER PHASE-D SHOQ;BAMUM LETTER PHASE-D PUQ;BAMUM LETTER PHASE-D MVOP
BAMUM LETTER PHASE-D LOQ;BAMUM LETTER PHASE-D REN MUCH;BAMUM LETTER PHASE-D TI
BAMUM LETTER PHASE-D NTUU;BAMUM LETTER PHASE-D MBAA SEVEN;BAMUM LETTER PHASE-D SAQ
BAMUM LETTER PHASE-D FAA;BAMUM LETTER PHASE-E NDAP;BAMUM LETTER PHASE-E TOON
BAMUM LETTER PHASE-E MBEUM;BAMUM LETTER PHASE-E LAP;BAMUM LETTER PHASE-E VOM
BAMUM LETTER PHASE-E LOON;BAMUM LETTER PHASE-E PAA;BAMUM LETTER PHASE-E SOM
BAMUM LETTER PHASE-E RAQ;BAMUM LETTER PHASE-E NSHUOP;BAMUM LETTER PHASE-E NDUN
BAMUM LETTER PHASE-E PUAE;BAMUM LETTER PHASE-E TAM;BAMUM LETTER PHASE-E NGKA
BAMUM LETTER PHASE-E KPEUX;BAMUM LETTER PHASE-E WUO;BAMUM LETTER PHASE-E SEE
BAMUM LETTER PHASE-E NGGEUAET;BAMUM LETTER PHASE-E PAAM;BAMUM LETTER PHASE-E TOO
BAMUM LETTER PHASE-E KUOP;BAMUM LETTER PHASE-E LOM;BAMUM LETTER PHASE-E NSHIEE
BAMUM LETTER PHASE-E NGOP;BAMUM LETTER PHASE-E MAEM;BAMUM LETTER PHASE-E NGKEUX
BAMUM LETTER PHASE-E NGOQ;BAMUM LETTER PHASE-E NSHUE;BAMUM LETTER PHASE-E RIMGBA
BAMUM LETTER PHASE-E NJEUX;BAMUM LETTER PHASE-E PEEM;BAMUM LETTER PHASE-E SAA
BAMUM LETTER PHASE-E NGGURAE;BAMUM LETTER PHASE-E MGBA;BAMUM LETTER PHASE-E GHEUX
BAMUM LETTER PHASE-E NGKEUAEM;BAMUM LETTER PHASE-E NJAEMLI;BAMUM LETTER PHASE-E MAP
BAMUM LETTER PHASE-E LOOT;BAMUM LETTER PHASE-E NGGEEEE;BAMUM LETTER PHASE-E NDIQ
BAMUM LETTER PHASE-E TAEN NTEUM;BAMUM LETTER PHASE-E SET;BAMUM LETTER PHASE-E PUM
BAMUM LETTER PHASE-E NDAA SOFTNESS;BAMUM LETTER PHASE-E NGGUAESHAE NYAM;BAMUM LETTER PHASE-E YIEE
BAMUM LETTER PHASE-E GHEUN;BAMUM LETTER PHASE-E TUAE;BAMUM LETTER PHASE-E YEUAE
BAMUM LETTER PHASE-E PO;BAMUM LETTER PHASE-E TUMAE;BAMUM LETTER PHASE-E KEUAE
BAMUM LETTER PHASE-E SUAEN;BAMUM LETTER PHASE-E TEUAEQ;BAMUM LETTER PHASE-E VEUAE
BAMUM LETTER PHASE-E WEUX;BAMUM LETTER PHASE-E LAAM;BAMUM LETTER PHASE-E PU
BAMUM LETTER PHASE-E TAAQ;BAMUM LETTER PHASE-E GHAAMAE;BAMUM LETTER PHASE-E NGEUREUT
BAMUM LETTER PHASE-E SHEUAEQ;BAMUM LETTER PHASE-E MGBEN;BAMUM LETTER PHASE-E MBEE
BAMUM LETTER PHASE-E NZAQ;BAMUM LETTER PHASE-E NKOM;BAMUM LETTER PHASE-E GBET
BAMUM LETTER PHASE-E TUM;BAMUM LETTER PHASE-E KUET;BAMUM LETTER PHASE-E YAP
BAMUM LETTER PHASE-E NYI CLEAVER;BAMUM LETTER PHASE-E YIT;BAMUM LETTER PHASE-E MFEUQ
BAMUM LETTER PHASE-E NDIAQ;BAMUM LETTER PHASE-E PIEEQ;BAMUM LETTER PHASE-E YUEQ
BAMUM LETTER PHASE-E LEUAEM;BAMUM LETTER PHASE-E FUE;BAMUM LETTER PHASE-E GBEUX
BAMUM LETTER PHASE-E NGKUP;BAMUM LETTER PHASE-E KET;BAMUM LETTER PHASE-E MAE
BAMUM LETTER PHASE-E NGKAAMI;BAMUM LETTER PHASE-E GHET;BAMUM LETTER PHASE-E FA
BAMUM LETTER PHASE-E NTUM;BAMUM LETTER PHASE-E PEUT;BAMUM LETTER PHASE-E YEUM
BAMUM LETTER PHASE-E NGGEUAE;BAMUM LETTER PHASE-E NYI BETWEEN;BAMUM LETTER PHASE-E NZUQ
BAMUM LETTER PHASE-E POON;BAMUM LETTER PHASE-E MIEE;BAMUM LETTER PHASE-E FUET
BAMUM LETTER PHASE-E NAE;BAMUM LETTER PHASE-E MUAE;BAMUM LETTER PHASE-E GHEUAE
BAMUM LETTER PHASE-E FU I;BAMUM LETTER PHASE-E MVI;BAMUM LETTER PHASE-E PUAQ
BAMUM LETTER PHASE-E NGKUM;BAMUM LETTER PHASE-E KUT;BAMUM LETTER PHASE-E PIET
BAMUM LETTER PHASE-E NTAP;BAMUM LETTER PHASE-E YEUAET;BAMUM LETTER PHASE-E NGGUP
BAMUM LETTER PHASE-E PA PEOPLE;BAMUM LETTER PHASE-E FU CALL;BAMUM LETTER PHASE-E FOM
BAMUM LETTER PHASE-E NJEE;BAMUM LETTER PHASE-E A;BAMUM LETTER PHASE-E TOQ;BAMUM LETTER PHASE-E O
BAMUM LETTER PHASE-E I;BAMUM LETTER PHASE-E LAQ;BAMUM LETTER PHASE-E PA PLURAL
BAMUM LETTER PHASE-E TAA;BAMUM LETTER PHASE-E TAQ;BAMUM LETTER PHASE-E NDAA MY HOUSE
BAMUM LETTER PHASE-E SHIQ;BAMUM LETTER PHASE-E YEUX;BAMUM LETTER PHASE-E NGUAE
BAMUM LETTER PHASE-E YUAEN;BAMUM LETTER PHASE-E YOQ SWIMMING;BAMUM LETTER PHASE-E YOQ COVER
BAMUM LETTER PHASE-E YUQ;BAMUM LETTER PHASE-E YUN;BAMUM LETTER PHASE-E KEUX
BAMUM LETTER PHASE-E PEUX;BAMUM LETTER PHASE-E NJEE EPOCH;BAMUM LETTER PHASE-E PUE
BAMUM LETTER PHASE-E WUE;BAMUM LETTER PHASE-E FEE;BAMUM LETTER PHASE-E VEE
BAMUM LETTER PHASE-E LU;BAMUM LETTER PHASE-E MI;BAMUM LETTER PHASE-E REUX
BAMUM LETTER PHASE-E RAE;BAMUM LETTER PHASE-E NGUAET;BAMUM LETTER PHASE-E NGA
BAMUM LETTER PHASE-E SHO;BAMUM LETTER PHASE-E SHOQ;BAMUM LETTER PHASE-E FU REMEDY
BAMUM LETTER PHASE-E NA;BAMUM LETTER PHASE-E PI;BAMUM LETTER PHASE-E LOQ;BAMUM LETTER PHASE-E KO
BAMUM LETTER PHASE-E MEN;BAMUM LETTER PHASE-E MA;BAMUM LETTER PHASE-E MAQ
BAMUM LETTER PHASE-E TEU;BAMUM LETTER PHASE-E KI;BAMUM LETTER PHASE-E MON
BAMUM LETTER PHASE-E TEN;BAMUM LETTER PHASE-E FAQ;BAMUM LETTER PHASE-E GHOM
BAMUM LETTER PHASE-F KA;BAMUM LETTER PHASE-F U;BAMUM LETTER PHASE-F KU;BAMUM LETTER PHASE-F EE
BAMUM LETTER PHASE-F REE;BAMUM LETTER PHASE-F TAE;BAMUM LETTER PHASE-F NYI
BAMUM LETTER PHASE-F LA;BAMUM LETTER PHASE-F RII;BAMUM LETTER PHASE-F RIEE
BAMUM LETTER PHASE-F MEEEE;BAMUM LETTER PHASE-F TAA;BAMUM LETTER PHASE-F NDAA
BAMUM LETTER PHASE-F NJAEM;BAMUM LETTER PHASE-F M;BAMUM LETTER PHASE-F SUU
BAMUM LETTER PHASE-F SHII;BAMUM LETTER PHASE-F SI;BAMUM LETTER PHASE-F SEUX
BAMUM LETTER PHASE-F KYEE;BAMUM LETTER PHASE-F KET;BAMUM LETTER PHASE-F NUAE
BAMUM LETTER PHASE-F NU;BAMUM LETTER PHASE-F NJUAE;BAMUM LETTER PHASE-F YOQ
BAMUM LETTER PHASE-F SHU;BAMUM LETTER PHASE-F YA;BAMUM LETTER PHASE-F NSHA
BAMUM LETTER PHASE-F PEUX;BAMUM LETTER PHASE-F NTEE;BAMUM LETTER PHASE-F WUE
BAMUM LETTER PHASE-F PEE;BAMUM LETTER PHASE-F RU;BAMUM LETTER PHASE-F NI
BAMUM LETTER PHASE-F REUX;BAMUM LETTER PHASE-F KEN;BAMUM LETTER PHASE-F NGKWAEN
BAMUM LETTER PHASE-F NGGA;BAMUM LETTER PHASE-F SHO;BAMUM LETTER PHASE-F PUAE
BAMUM LETTER PHASE-F FOM;BAMUM LETTER PHASE-F WA;BAMUM LETTER PHASE-F LI;BAMUM LETTER PHASE-F LOQ
BAMUM LETTER PHASE-F KO;BAMUM LETTER PHASE-F MBEN;BAMUM LETTER PHASE-F REN
BAMUM LETTER PHASE-F MA;BAMUM LETTER PHASE-F MO;BAMUM LETTER PHASE-F MBAA
BAMUM LETTER PHASE-F TET;BAMUM LETTER PHASE-F KPA;BAMUM LETTER PHASE-F SAMBA
BAMUM LETTER PHASE-F VUEQ"),
  (0x16a40, "MRO LETTER TA;MRO LETTER NGI;MRO LETTER YO;MRO LETTER MIM;MRO LETTER BA
MRO LETTER DA;MRO LETTER A;MRO LETTER PHI;MRO LETTER KHAI;MRO LETTER HAO;MRO LETTER DAI
MRO LETTER CHU;MRO LETTER KEAAE;MRO LETTER OL;MRO LETTER MAEM;MRO LETTER NIN;MRO LETTER PA
MRO LETTER OO;MRO LETTER O;MRO LETTER RO;MRO LETTER SHI;MRO LETTER THEA;MRO LETTER EA
MRO LETTER WA;MRO LETTER E;MRO LETTER KO;MRO LETTER LAN;MRO LETTER LA;MRO LETTER HAI
MRO LETTER RI;MRO LETTER TEK"),
  (0x16a60, "MRO DIGIT ZERO;MRO DIGIT ONE;MRO DIGIT TWO;MRO DIGIT THREE;MRO DIGIT FOUR
MRO DIGIT FIVE;MRO DIGIT SIX;MRO DIGIT SEVEN;MRO DIGIT EIGHT;MRO DIGIT NINE"),
  (0x16a6e, "MRO DANDA;MRO DOUBLE DANDA;TANGSA LETTER OZ;TANGSA LETTER OC;TANGSA LETTER OQ
TANGSA LETTER OX;TANGSA LETTER AZ;TANGSA LETTER AC;TANGSA LETTER AQ;TANGSA LETTER AX
TANGSA LETTER VZ;TANGSA LETTER VC;TANGSA LETTER VQ;TANGSA LETTER VX;TANGSA LETTER EZ
TANGSA LETTER EC;TANGSA LETTER EQ;TANGSA LETTER EX;TANGSA LETTER IZ;TANGSA LETTER IC
TANGSA LETTER IQ;TANGSA LETTER IX;TANGSA LETTER UZ;TANGSA LETTER UC;TANGSA LETTER UQ
TANGSA LETTER UX;TANGSA LETTER AWZ;TANGSA LETTER AWC;TANGSA LETTER AWQ;TANGSA LETTER AWX
TANGSA LETTER UIZ;TANGSA LETTER UIC;TANGSA LETTER UIQ;TANGSA LETTER UIX;TANGSA LETTER FINAL NG
TANGSA LETTER LONG UEX;TANGSA LETTER SHORT UEZ;TANGSA LETTER SHORT AWX;TANGSA LETTER UEC
TANGSA LETTER UEZ;TANGSA LETTER UEQ;TANGSA LETTER UEX;TANGSA LETTER UIUZ;TANGSA LETTER UIUC
TANGSA LETTER UIUQ;TANGSA LETTER UIUX;TANGSA LETTER MZ;TANGSA LETTER MC;TANGSA LETTER MQ
TANGSA LETTER MX;TANGSA LETTER KA;TANGSA LETTER KHA;TANGSA LETTER GA;TANGSA LETTER NGA
TANGSA LETTER SA;TANGSA LETTER YA;TANGSA LETTER WA;TANGSA LETTER PA;TANGSA LETTER NYA
TANGSA LETTER PHA;TANGSA LETTER BA;TANGSA LETTER MA;TANGSA LETTER NA;TANGSA LETTER HA
TANGSA LETTER LA;TANGSA LETTER HTA;TANGSA LETTER TA;TANGSA LETTER DA;TANGSA LETTER RA
TANGSA LETTER NHA;TANGSA LETTER SHA;TANGSA LETTER CA;TANGSA LETTER TSA;TANGSA LETTER GHA
TANGSA LETTER HTTA;TANGSA LETTER THA;TANGSA LETTER XA;TANGSA LETTER FA;TANGSA LETTER DHA
TANGSA LETTER CHA;TANGSA LETTER ZA"),
  (0x16ac0, "TANGSA DIGIT ZERO;TANGSA DIGIT ONE;TANGSA DIGIT TWO;TANGSA DIGIT THREE
TANGSA DIGIT FOUR;TANGSA DIGIT FIVE;TANGSA DIGIT SIX;TANGSA DIGIT SEVEN;TANGSA DIGIT EIGHT
TANGSA DIGIT NINE"),
  (0x16ad0, "BASSA VAH LETTER ENNI;BASSA VAH LETTER KA;BASSA VAH LETTER SE;BASSA VAH LETTER FA
BASSA VAH LETTER MBE;BASSA VAH LETTER YIE;BASSA VAH LETTER GAH;BASSA VAH LETTER DHII
BASSA VAH LETTER KPAH;BASSA VAH LETTER JO;BASSA VAH LETTER HWAH;BASSA VAH LETTER WA
BASSA VAH LETTER ZO;BASSA VAH LETTER GBU;BASSA VAH LETTER DO;BASSA VAH LETTER CE
BASSA VAH LETTER UWU;BASSA VAH LETTER TO;BASSA VAH LETTER BA;BASSA VAH LETTER VU
BASSA VAH LETTER YEIN;BASSA VAH LETTER PA;BASSA VAH LETTER WADDA;BASSA VAH LETTER A
BASSA VAH LETTER O;BASSA VAH LETTER OO;BASSA VAH LETTER U;BASSA VAH LETTER EE;BASSA VAH LETTER E
BASSA VAH LETTER I"),
  (0x16af0, "BASSA VAH COMBINING HIGH TONE;BASSA VAH COMBINING LOW TONE
BASSA VAH COMBINING MID TONE;BASSA VAH COMBINING LOW-MID TONE;BASSA VAH COMBINING HIGH-LOW TONE
BASSA VAH FULL STOP"),
  (0x16b00, "PAHAWH HMONG VOWEL KEEB;PAHAWH HMONG VOWEL KEEV;PAHAWH HMONG VOWEL KIB
PAHAWH HMONG VOWEL KIV;PAHAWH HMONG VOWEL KAUB;PAHAWH HMONG VOWEL KAUV;PAHAWH HMONG VOWEL KUB
PAHAWH HMONG VOWEL KUV;PAHAWH HMONG VOWEL KEB;PAHAWH HMONG VOWEL KEV;PAHAWH HMONG VOWEL KAIB
PAHAWH HMONG VOWEL KAIV;PAHAWH HMONG VOWEL KOOB;PAHAWH HMONG VOWEL KOOV;PAHAWH HMONG VOWEL KAWB
PAHAWH HMONG VOWEL KAWV;PAHAWH HMONG VOWEL KUAB;PAHAWH HMONG VOWEL KUAV;PAHAWH HMONG VOWEL KOB
PAHAWH HMONG VOWEL KOV;PAHAWH HMONG VOWEL KIAB;PAHAWH HMONG VOWEL KIAV;PAHAWH HMONG VOWEL KAB
PAHAWH HMONG VOWEL KAV;PAHAWH HMONG VOWEL KWB;PAHAWH HMONG VOWEL KWV;PAHAWH HMONG VOWEL KAAB
PAHAWH HMONG VOWEL KAAV;PAHAWH HMONG CONSONANT VAU;PAHAWH HMONG CONSONANT NTSAU
PAHAWH HMONG CONSONANT LAU;PAHAWH HMONG CONSONANT HAU;PAHAWH HMONG CONSONANT NLAU
PAHAWH HMONG CONSONANT RAU;PAHAWH HMONG CONSONANT NKAU;PAHAWH HMONG CONSONANT QHAU
PAHAWH HMONG CONSONANT YAU;PAHAWH HMONG CONSONANT HLAU;PAHAWH HMONG CONSONANT MAU
PAHAWH HMONG CONSONANT CHAU;PAHAWH HMONG CONSONANT NCHAU;PAHAWH HMONG CONSONANT HNAU
PAHAWH HMONG CONSONANT PLHAU;PAHAWH HMONG CONSONANT NTHAU;PAHAWH HMONG CONSONANT NAU
PAHAWH HMONG CONSONANT AU;PAHAWH HMONG CONSONANT XAU;PAHAWH HMONG CONSONANT CAU
PAHAWH HMONG MARK CIM TUB;PAHAWH HMONG MARK CIM SO;PAHAWH HMONG MARK CIM KES
PAHAWH HMONG MARK CIM KHAV;PAHAWH HMONG MARK CIM SUAM;PAHAWH HMONG MARK CIM HOM
PAHAWH HMONG MARK CIM TAUM;PAHAWH HMONG SIGN VOS THOM;PAHAWH HMONG SIGN VOS TSHAB CEEB
PAHAWH HMONG SIGN CIM CHEEM;PAHAWH HMONG SIGN VOS THIAB;PAHAWH HMONG SIGN VOS FEEM
PAHAWH HMONG SIGN XYEEM NTXIV;PAHAWH HMONG SIGN XYEEM RHO;PAHAWH HMONG SIGN XYEEM TOV
PAHAWH HMONG SIGN XYEEM FAIB;PAHAWH HMONG SIGN VOS SEEV;PAHAWH HMONG SIGN MEEJ SUAB
PAHAWH HMONG SIGN VOS NRUA;PAHAWH HMONG SIGN IB YAM;PAHAWH HMONG SIGN XAUS
PAHAWH HMONG SIGN CIM TSOV ROG"),
  (0x16b50, "PAHAWH HMONG DIGIT ZERO;PAHAWH HMONG DIGIT ONE;PAHAWH HMONG DIGIT TWO
PAHAWH HMONG DIGIT THREE;PAHAWH HMONG DIGIT FOUR;PAHAWH HMONG DIGIT FIVE;PAHAWH HMONG DIGIT SIX
PAHAWH HMONG DIGIT SEVEN;PAHAWH HMONG DIGIT EIGHT;PAHAWH HMONG DIGIT NINE"),
  (0x16b5b, "PAHAWH HMONG NUMBER TENS;PAHAWH HMONG NUMBER HUNDREDS
PAHAWH HMONG NUMBER TEN THOUSANDS;PAHAWH HMONG NUMBER MILLIONS
PAHAWH HMONG NUMBER HUNDRED MILLIONS;PAHAWH HMONG NUMBER TEN BILLIONS
PAHAWH HMONG NUMBER TRILLIONS"),
  (0x16b63, "PAHAWH HMONG SIGN VOS LUB;PAHAWH HMONG SIGN XYOO;PAHAWH HMONG SIGN HLI
PAHAWH HMONG SIGN THIRD-STAGE HLI;PAHAWH HMONG SIGN ZWJ THAJ;PAHAWH HMONG SIGN HNUB
PAHAWH HMONG SIGN NQIG;PAHAWH HMONG SIGN XIAB;PAHAWH HMONG SIGN NTUJ;PAHAWH HMONG SIGN AV
PAHAWH HMONG SIGN TXHEEJ CEEV;PAHAWH HMONG SIGN MEEJ TSEEB;PAHAWH HMONG SIGN TAU
PAHAWH HMONG SIGN LOS;PAHAWH HMONG SIGN MUS;PAHAWH HMONG SIGN CIM HAIS LUS NTOG NTOG
PAHAWH HMONG SIGN CIM CUAM TSHOOJ;PAHAWH HMONG SIGN CIM TXWV;PAHAWH HMONG SIGN CIM TXWV CHWV
PAHAWH HMONG SIGN CIM PUB DAWB;PAHAWH HMONG SIGN CIM NRES TOS"),
  (0x16b7d, "PAHAWH HMONG CLAN SIGN TSHEEJ;PAHAWH HMONG CLAN SIGN YEEG;PAHAWH HMONG CLAN SIGN LIS
PAHAWH HMONG CLAN SIGN LAUJ;PAHAWH HMONG CLAN SIGN XYOOJ;PAHAWH HMONG CLAN SIGN KOO
PAHAWH HMONG CLAN SIGN HAWJ;PAHAWH HMONG CLAN SIGN MUAS;PAHAWH HMONG CLAN SIGN THOJ
PAHAWH HMONG CLAN SIGN TSAB;PAHAWH HMONG CLAN SIGN PHAB;PAHAWH HMONG CLAN SIGN KHAB
PAHAWH HMONG CLAN SIGN HAM;PAHAWH HMONG CLAN SIGN VAJ;PAHAWH HMONG CLAN SIGN FAJ
PAHAWH HMONG CLAN SIGN YAJ;PAHAWH HMONG CLAN SIGN TSWB;PAHAWH HMONG CLAN SIGN KWM
PAHAWH HMONG CLAN SIGN VWJ"),
  (0x16e40, "MEDEFAIDRIN CAPITAL LETTER M;MEDEFAIDRIN CAPITAL LETTER S
MEDEFAIDRIN CAPITAL LETTER V;MEDEFAIDRIN CAPITAL LETTER W;MEDEFAIDRIN CAPITAL LETTER ATIU
MEDEFAIDRIN CAPITAL LETTER Z;MEDEFAIDRIN CAPITAL LETTER KP;MEDEFAIDRIN CAPITAL LETTER P
MEDEFAIDRIN CAPITAL LETTER T;MEDEFAIDRIN CAPITAL LETTER G;MEDEFAIDRIN CAPITAL LETTER F
MEDEFAIDRIN CAPITAL LETTER I;MEDEFAIDRIN CAPITAL LETTER K;MEDEFAIDRIN CAPITAL LETTER A
MEDEFAIDRIN CAPITAL LETTER J;MEDEFAIDRIN CAPITAL LETTER E;MEDEFAIDRIN CAPITAL LETTER B
MEDEFAIDRIN CAPITAL LETTER C;MEDEFAIDRIN CAPITAL LETTER U;MEDEFAIDRIN CAPITAL LETTER YU
MEDEFAIDRIN CAPITAL LETTER L;MEDEFAIDRIN CAPITAL LETTER Q;MEDEFAIDRIN CAPITAL LETTER HP
MEDEFAIDRIN CAPITAL LETTER NY;MEDEFAIDRIN CAPITAL LETTER X;MEDEFAIDRIN CAPITAL LETTER D
MEDEFAIDRIN CAPITAL LETTER OE;MEDEFAIDRIN CAPITAL LETTER N;MEDEFAIDRIN CAPITAL LETTER R
MEDEFAIDRIN CAPITAL LETTER O;MEDEFAIDRIN CAPITAL LETTER AI;MEDEFAIDRIN CAPITAL LETTER Y
MEDEFAIDRIN SMALL LETTER M;MEDEFAIDRIN SMALL LETTER S;MEDEFAIDRIN SMALL LETTER V
MEDEFAIDRIN SMALL LETTER W;MEDEFAIDRIN SMALL LETTER ATIU;MEDEFAIDRIN SMALL LETTER Z
MEDEFAIDRIN SMALL LETTER KP;MEDEFAIDRIN SMALL LETTER P;MEDEFAIDRIN SMALL LETTER T
MEDEFAIDRIN SMALL LETTER G;MEDEFAIDRIN SMALL LETTER F;MEDEFAIDRIN SMALL LETTER I
MEDEFAIDRIN SMALL LETTER K;MEDEFAIDRIN SMALL LETTER A;MEDEFAIDRIN SMALL LETTER J
MEDEFAIDRIN SMALL LETTER E;MEDEFAIDRIN SMALL LETTER B;MEDEFAIDRIN SMALL LETTER C
MEDEFAIDRIN SMALL LETTER U;MEDEFAIDRIN SMALL LETTER YU;MEDEFAIDRIN SMALL LETTER L
MEDEFAIDRIN SMALL LETTER Q;MEDEFAIDRIN SMALL LETTER HP;MEDEFAIDRIN SMALL LETTER NY
MEDEFAIDRIN SMALL LETTER X;MEDEFAIDRIN SMALL LETTER D;MEDEFAIDRIN SMALL LETTER OE
MEDEFAIDRIN SMALL LETTER N;MEDEFAIDRIN SMALL LETTER R;MEDEFAIDRIN SMALL LETTER O
MEDEFAIDRIN SMALL LETTER AI;MEDEFAIDRIN SMALL LETTER Y;MEDEFAIDRIN DIGIT ZERO
MEDEFAIDRIN DIGIT ONE;MEDEFAIDRIN DIGIT TWO;MEDEFAIDRIN DIGIT THREE;MEDEFAIDRIN DIGIT FOUR
MEDEFAIDRIN DIGIT FIVE;MEDEFAIDRIN DIGIT SIX;MEDEFAIDRIN DIGIT SEVEN;MEDEFAIDRIN DIGIT EIGHT
MEDEFAIDRIN DIGIT NINE;MEDEFAIDRIN NUMBER TEN;MEDEFAIDRIN NUMBER ELEVEN;MEDEFAIDRIN NUMBER TWELVE
MEDEFAIDRIN NUMBER THIRTEEN;MEDEFAIDRIN NUMBER FOURTEEN;MEDEFAIDRIN NUMBER FIFTEEN
MEDEFAIDRIN NUMBER SIXTEEN;MEDEFAIDRIN NUMBER SEVENTEEN;MEDEFAIDRIN NUMBER EIGHTEEN
MEDEFAIDRIN NUMBER NINETEEN;MEDEFAIDRIN DIGIT ONE ALTERNATE FORM
MEDEFAIDRIN DIGIT TWO ALTERNATE FORM;MEDEFAIDRIN DIGIT THREE ALTERNATE FORM;MEDEFAIDRIN COMMA
MEDEFAIDRIN FULL STOP;MEDEFAIDRIN SYMBOL AIVA;MEDEFAIDRIN EXCLAMATION OH"),
  (0x16f00, "MIAO LETTER PA;MIAO LETTER BA;MIAO LETTER YI PA;MIAO LETTER PLA;MIAO LETTER MA
MIAO LETTER MHA;MIAO LETTER ARCHAIC MA;MIAO LETTER FA;MIAO LETTER VA;MIAO LETTER VFA
MIAO LETTER TA;MIAO LETTER DA;MIAO LETTER YI TTA;MIAO LETTER YI TA;MIAO LETTER TTA
MIAO LETTER DDA;MIAO LETTER NA;MIAO LETTER NHA;MIAO LETTER YI NNA;MIAO LETTER ARCHAIC NA
MIAO LETTER NNA;MIAO LETTER NNHA;MIAO LETTER LA;MIAO LETTER LYA;MIAO LETTER LHA;MIAO LETTER LHYA
MIAO LETTER TLHA;MIAO LETTER DLHA;MIAO LETTER TLHYA;MIAO LETTER DLHYA;MIAO LETTER KA
MIAO LETTER GA;MIAO LETTER YI KA;MIAO LETTER QA;MIAO LETTER QGA;MIAO LETTER NGA;MIAO LETTER NGHA
MIAO LETTER ARCHAIC NGA;MIAO LETTER HA;MIAO LETTER XA;MIAO LETTER GHA;MIAO LETTER GHHA
MIAO LETTER TSSA;MIAO LETTER DZZA;MIAO LETTER NYA;MIAO LETTER NYHA;MIAO LETTER TSHA
MIAO LETTER DZHA;MIAO LETTER YI TSHA;MIAO LETTER YI DZHA;MIAO LETTER REFORMED TSHA
MIAO LETTER SHA;MIAO LETTER SSA;MIAO LETTER ZHA;MIAO LETTER ZSHA;MIAO LETTER TSA;MIAO LETTER DZA
MIAO LETTER YI TSA;MIAO LETTER SA;MIAO LETTER ZA;MIAO LETTER ZSA;MIAO LETTER ZZA;MIAO LETTER ZZSA
MIAO LETTER ARCHAIC ZZA;MIAO LETTER ZZYA;MIAO LETTER ZZSYA;MIAO LETTER WA;MIAO LETTER AH
MIAO LETTER HHA;MIAO LETTER BRI;MIAO LETTER SYI;MIAO LETTER DZYI;MIAO LETTER TE;MIAO LETTER TSE
MIAO LETTER RTE"),
  (0x16f4f, "MIAO SIGN CONSONANT MODIFIER BAR;MIAO LETTER NASALIZATION;MIAO SIGN ASPIRATION
MIAO SIGN REFORMED VOICING;MIAO SIGN REFORMED ASPIRATION;MIAO VOWEL SIGN A;MIAO VOWEL SIGN AA
MIAO VOWEL SIGN AHH;MIAO VOWEL SIGN AN;MIAO VOWEL SIGN ANG;MIAO VOWEL SIGN O;MIAO VOWEL SIGN OO
MIAO VOWEL SIGN WO;MIAO VOWEL SIGN W;MIAO VOWEL SIGN E;MIAO VOWEL SIGN EN;MIAO VOWEL SIGN ENG
MIAO VOWEL SIGN OEY;MIAO VOWEL SIGN I;MIAO VOWEL SIGN IA;MIAO VOWEL SIGN IAN;MIAO VOWEL SIGN IANG
MIAO VOWEL SIGN IO;MIAO VOWEL SIGN IE;MIAO VOWEL SIGN II;MIAO VOWEL SIGN IU;MIAO VOWEL SIGN ING
MIAO VOWEL SIGN U;MIAO VOWEL SIGN UA;MIAO VOWEL SIGN UAN;MIAO VOWEL SIGN UANG;MIAO VOWEL SIGN UU
MIAO VOWEL SIGN UEI;MIAO VOWEL SIGN UNG;MIAO VOWEL SIGN Y;MIAO VOWEL SIGN YI;MIAO VOWEL SIGN AE
MIAO VOWEL SIGN AEE;MIAO VOWEL SIGN ERR;MIAO VOWEL SIGN ROUNDED ERR;MIAO VOWEL SIGN ER
MIAO VOWEL SIGN ROUNDED ER;MIAO VOWEL SIGN AI;MIAO VOWEL SIGN EI;MIAO VOWEL SIGN AU
MIAO VOWEL SIGN OU;MIAO VOWEL SIGN N;MIAO VOWEL SIGN NG;MIAO VOWEL SIGN UOG;MIAO VOWEL SIGN YUI
MIAO VOWEL SIGN OG;MIAO VOWEL SIGN OER;MIAO VOWEL SIGN VW;MIAO VOWEL SIGN IG;MIAO VOWEL SIGN EA
MIAO VOWEL SIGN IONG;MIAO VOWEL SIGN UI"),
  (0x16f8f, "MIAO TONE RIGHT;MIAO TONE TOP RIGHT;MIAO TONE ABOVE;MIAO TONE BELOW
MIAO LETTER TONE-2;MIAO LETTER TONE-3;MIAO LETTER TONE-4;MIAO LETTER TONE-5;MIAO LETTER TONE-6
MIAO LETTER TONE-7;MIAO LETTER TONE-8;MIAO LETTER REFORMED TONE-1;MIAO LETTER REFORMED TONE-2
MIAO LETTER REFORMED TONE-4;MIAO LETTER REFORMED TONE-5;MIAO LETTER REFORMED TONE-6
MIAO LETTER REFORMED TONE-8"),
  (0x16fe0, "TANGUT ITERATION MARK;NUSHU ITERATION MARK;OLD CHINESE HOOK MARK
OLD CHINESE ITERATION MARK;KHITAN SMALL SCRIPT FILLER"),
  (0x16ff0, "VIETNAMESE ALTERNATE READING MARK CA;VIETNAMESE ALTERNATE READING MARK NHAY"),
  (0x18800, "TANGUT COMPONENT-001;TANGUT COMPONENT-002;TANGUT COMPONENT-003;TANGUT COMPONENT-004
TANGUT COMPONENT-005;TANGUT COMPONENT-006;TANGUT COMPONENT-007;TANGUT COMPONENT-008
TANGUT COMPONENT-009;TANGUT COMPONENT-010;TANGUT COMPONENT-011;TANGUT COMPONENT-012
TANGUT COMPONENT-013;TANGUT COMPONENT-014;TANGUT COMPONENT-015;TANGUT COMPONENT-016
TANGUT COMPONENT-017;TANGUT COMPONENT-018;TANGUT COMPONENT-019;TANGUT COMPONENT-020
TANGUT COMPONENT-021;TANGUT COMPONENT-022;TANGUT COMPONENT-023;TANGUT COMPONENT-024
TANGUT COMPONENT-025;TANGUT COMPONENT-026;TANGUT COMPONENT-027;TANGUT COMPONENT-028
TANGUT COMPONENT-029;TANGUT COMPONENT-030;TANGUT COMPONENT-031;TANGUT COMPONENT-032
TANGUT COMPONENT-033;TANGUT COMPONENT-034;TANGUT COMPONENT-035;TANGUT COMPONENT-036
TANGUT COMPONENT-037;TANGUT COMPONENT-038;TANGUT COMPONENT-039;TANGUT COMPONENT-040
TANGUT COMPONENT-041;TANGUT COMPONENT-042;TANGUT COMPONENT-043;TANGUT COMPONENT-044
TANGUT COMPONENT-045;TANGUT COMPONENT-046;TANGUT COMPONENT-047;TANGUT COMPONENT-048
TANGUT COMPONENT-049;TANGUT COMPONENT-050;TANGUT COMPONENT-051;TANGUT COMPONENT-052
TANGUT COMPONENT-053;TANGUT COMPONENT-054;TANGUT COMPONENT-055;TANGUT COMPONENT-056
TANGUT COMPONENT-057;TANGUT COMPONENT-058;TANGUT COMPONENT-059;TANGUT COMPONENT-060
TANGUT COMPONENT-061;TANGUT COMPONENT-062;TANGUT COMPONENT-063;TANGUT COMPONENT-064
TANGUT COMPONENT-065;TANGUT COMPONENT-066;TANGUT COMPONENT-067;TANGUT COMPONENT-068
TANGUT COMPONENT-069;TANGUT COMPONENT-070;TANGUT COMPONENT-071;TANGUT COMPONENT-072
TANGUT COMPONENT-073;TANGUT COMPONENT-074;TANGUT COMPONENT-075;TANGUT COMPONENT-076
TANGUT COMPONENT-077;TANGUT COMPONENT-078;TANGUT COMPONENT-079;TANGUT COMPONENT-080
TANGUT COMPONENT-081;TANGUT COMPONENT-082;TANGUT COMPONENT-083;TANGUT COMPONENT-084
TANGUT COMPONENT-085;TANGUT COMPONENT-086;TANGUT COMPONENT-087;TANGUT COMPONENT-088
TANGUT COMPONENT-089;TANGUT COMPONENT-090;TANGUT COMPONENT-091;TANGUT COMPONENT-092
TANGUT COMPONENT-093;TANGUT COMPONENT-094;TANGUT COMPONENT-095;TANGUT COMPONENT-096
TANGUT COMPONENT-097;TANGUT COMPONENT-098;TANGUT COMPONENT-099;TANGUT COMPONENT-100
TANGUT COMPONENT-101;TANGUT COMPONENT-102;TANGUT COMPONENT-103;TANGUT COMPONENT-104
TANGUT COMPONENT-105;TANGUT COMPONENT-106;TANGUT COMPONENT-107;TANGUT COMPONENT-108
TANGUT COMPONENT-109;TANGUT COMPONENT-110;TANGUT COMPONENT-111;TANGUT COMPONENT-112
TANGUT COMPONENT-113;TANGUT COMPONENT-114;TANGUT COMPONENT-115;TANGUT COMPONENT-116
TANGUT COMPONENT-117;TANGUT COMPONENT-118;TANGUT COMPONENT-119;TANGUT COMPONENT-120
TANGUT COMPONENT-121;TANGUT COMPONENT-122;TANGUT COMPONENT-123;TANGUT COMPONENT-124
TANGUT COMPONENT-125;TANGUT COMPONENT-126;TANGUT COMPONENT-127;TANGUT COMPONENT-128
TANGUT COMPONENT-129;TANGUT COMPONENT-130;TANGUT COMPONENT-131;TANGUT COMPONENT-132
TANGUT COMPONENT-133;TANGUT COMPONENT-134;TANGUT COMPONENT-135;TANGUT COMPONENT-136
TANGUT COMPONENT-137;TANGUT COMPONENT-138;TANGUT COMPONENT-139;TANGUT COMPONENT-140
TANGUT COMPONENT-141;TANGUT COMPONENT-142;TANGUT COMPONENT-143;TANGUT COMPONENT-144
TANGUT COMPONENT-145;TANGUT COMPONENT-146;TANGUT COMPONENT-147;TANGUT COMPONENT-148
TANGUT COMPONENT-149;TANGUT COMPONENT-150;TANGUT COMPONENT-151;TANGUT COMPONENT-152
TANGUT COMPONENT-153;TANGUT COMPONENT-154;TANGUT COMPONENT-155;TANGUT COMPONENT-156
TANGUT COMPONENT-157;TANGUT COMPONENT-158;TANGUT COMPONENT-159;TANGUT COMPONENT-160
TANGUT COMPONENT-161;TANGUT COMPONENT-162;TANGUT COMPONENT-163;TANGUT COMPONENT-164
TANGUT COMPONENT-165;TANGUT COMPONENT-166;TANGUT COMPONENT-167;TANGUT COMPONENT-168
TANGUT COMPONENT-169;TANGUT COMPONENT-170;TANGUT COMPONENT-171;TANGUT COMPONENT-172
TANGUT COMPONENT-173;TANGUT COMPONENT-174;TANGUT COMPONENT-175;TANGUT COMPONENT-176
TANGUT COMPONENT-177;TANGUT COMPONENT-178;TANGUT COMPONENT-179;TANGUT COMPONENT-180
TANGUT COMPONENT-181;TANGUT COMPONENT-182;TANGUT COMPONENT-183;TANGUT COMPONENT-184
TANGUT COMPONENT-185;TANGUT COMPONENT-186;TANGUT COMPONENT-187;TANGUT COMPONENT-188
TANGUT COMPONENT-189;TANGUT COMPONENT-190;TANGUT COMPONENT-191;TANGUT COMPONENT-192
TANGUT COMPONENT-193;TANGUT COMPONENT-194;TANGUT COMPONENT-195;TANGUT COMPONENT-196
TANGUT COMPONENT-197;TANGUT COMPONENT-198;TANGUT COMPONENT-199;TANGUT COMPONENT-200
TANGUT COMPONENT-201;TANGUT COMPONENT-202;TANGUT COMPONENT-203;TANGUT COMPONENT-204
TANGUT COMPONENT-205;TANGUT COMPONENT-206;TANGUT COMPONENT-207;TANGUT COMPONENT-208
TANGUT COMPONENT-209;TANGUT COMPONENT-210;TANGUT COMPONENT-211;TANGUT COMPONENT-212
TANGUT COMPONENT-213;TANGUT COMPONENT-214;TANGUT COMPONENT-215;TANGUT COMPONENT-216
TANGUT COMPONENT-217;TANGUT COMPONENT-218;TANGUT COMPONENT-219;TANGUT COMPONENT-220
TANGUT COMPONENT-221;TANGUT COMPONENT-222;TANGUT COMPONENT-223;TANGUT COMPONENT-224
TANGUT COMPONENT-225;TANGUT COMPONENT-226;TANGUT COMPONENT-227;TANGUT COMPONENT-228
TANGUT COMPONENT-229;TANGUT COMPONENT-230;TANGUT COMPONENT-231;TANGUT COMPONENT-232
TANGUT COMPONENT-233;TANGUT COMPONENT-234;TANGUT COMPONENT-235;TANGUT COMPONENT-236
TANGUT COMPONENT-237;TANGUT COMPONENT-238;TANGUT COMPONENT-239;TANGUT COMPONENT-240
TANGUT COMPONENT-241;TANGUT COMPONENT-242;TANGUT COMPONENT-243;TANGUT COMPONENT-244
TANGUT COMPONENT-245;TANGUT COMPONENT-246;TANGUT COMPONENT-247;TANGUT COMPONENT-248
TANGUT COMPONENT-249;TANGUT COMPONENT-250;TANGUT COMPONENT-251;TANGUT COMPONENT-252
TANGUT COMPONENT-253;TANGUT COMPONENT-254;TANGUT COMPONENT-255;TANGUT COMPONENT-256
TANGUT COMPONENT-257;TANGUT COMPONENT-258;TANGUT COMPONENT-259;TANGUT COMPONENT-260
TANGUT COMPONENT-261;TANGUT COMPONENT-262;TANGUT COMPONENT-263;TANGUT COMPONENT-264
TANGUT COMPONENT-265;TANGUT COMPONENT-266;TANGUT COMPONENT-267;TANGUT COMPONENT-268
TANGUT COMPONENT-269;TANGUT COMPONENT-270;TANGUT COMPONENT-271;TANGUT COMPONENT-272
TANGUT COMPONENT-273;TANGUT COMPONENT-274;TANGUT COMPONENT-275;TANGUT COMPONENT-276
TANGUT COMPONENT-277;TANGUT COMPONENT-278;TANGUT COMPONENT-279;TANGUT COMPONENT-280
TANGUT COMPONENT-281;TANGUT COMPONENT-282;TANGUT COMPONENT-283;TANGUT COMPONENT-284
TANGUT COMPONENT-285;TANGUT COMPONENT-286;TANGUT COMPONENT-287;TANGUT COMPONENT-288
TANGUT COMPONENT-289;TANGUT COMPONENT-290;TANGUT COMPONENT-291;TANGUT COMPONENT-292
TANGUT COMPONENT-293;TANGUT COMPONENT-294;TANGUT COMPONENT-295;TANGUT COMPONENT-296
TANGUT COMPONENT-297;TANGUT COMPONENT-298;TANGUT COMPONENT-299;TANGUT COMPONENT-300
TANGUT COMPONENT-301;TANGUT COMPONENT-302;TANGUT COMPONENT-303;TANGUT COMPONENT-304
TANGUT COMPONENT-305;TANGUT COMPONENT-306;TANGUT COMPONENT-307;TANGUT COMPONENT-308
TANGUT COMPONENT-309;TANGUT COMPONENT-310;TANGUT COMPONENT-311;TANGUT COMPONENT-312
TANGUT COMPONENT-313;TANGUT COMPONENT-314;TANGUT COMPONENT-315;TANGUT COMPONENT-316
TANGUT COMPONENT-317;TANGUT COMPONENT-318;TANGUT COMPONENT-319;TANGUT COMPONENT-320
TANGUT COMPONENT-321;TANGUT COMPONENT-322;TANGUT COMPONENT-323;TANGUT COMPONENT-324
TANGUT COMPONENT-325;TANGUT COMPONENT-326;TANGUT COMPONENT-327;TANGUT COMPONENT-328
TANGUT COMPONENT-329;TANGUT COMPONENT-330;TANGUT COMPONENT-331;TANGUT COMPONENT-332
TANGUT COMPONENT-333;TANGUT COMPONENT-334;TANGUT COMPONENT-335;TANGUT COMPONENT-336
TANGUT COMPONENT-337;TANGUT COMPONENT-338;TANGUT COMPONENT-339;TANGUT COMPONENT-340
TANGUT COMPONENT-341;TANGUT COMPONENT-342;TANGUT COMPONENT-343;TANGUT COMPONENT-344
TANGUT COMPONENT-345;TANGUT COMPONENT-346;TANGUT COMPONENT-347;TANGUT COMPONENT-348
TANGUT COMPONENT-349;TANGUT COMPONENT-350;TANGUT COMPONENT-351;TANGUT COMPONENT-352
TANGUT COMPONENT-353;TANGUT COMPONENT-354;TANGUT COMPONENT-355;TANGUT COMPONENT-356
TANGUT COMPONENT-357;TANGUT COMPONENT-358;TANGUT COMPONENT-359;TANGUT COMPONENT-360
TANGUT COMPONENT-361;TANGUT COMPONENT-362;TANGUT COMPONENT-363;TANGUT COMPONENT-364
TANGUT COMPONENT-365;TANGUT COMPONENT-366;TANGUT COMPONENT-367;TANGUT COMPONENT-368
TANGUT COMPONENT-369;TANGUT COMPONENT-370;TANGUT COMPONENT-371;TANGUT COMPONENT-372
TANGUT COMPONENT-373;TANGUT COMPONENT-374;TANGUT COMPONENT-375;TANGUT COMPONENT-376
TANGUT COMPONENT-377;TANGUT COMPONENT-378;TANGUT COMPONENT-379;TANGUT COMPONENT-380
TANGUT COMPONENT-381;TANGUT COMPONENT-382;TANGUT COMPONENT-383;TANGUT COMPONENT-384
TANGUT COMPONENT-385;TANGUT COMPONENT-386;TANGUT COMPONENT-387;TANGUT COMPONENT-388
TANGUT COMPONENT-389;TANGUT COMPONENT-390;TANGUT COMPONENT-391;TANGUT COMPONENT-392
TANGUT COMPONENT-393;TANGUT COMPONENT-394;TANGUT COMPONENT-395;TANGUT COMPONENT-396
TANGUT COMPONENT-397;TANGUT COMPONENT-398;TANGUT COMPONENT-399;TANGUT COMPONENT-400
TANGUT COMPONENT-401;TANGUT COMPONENT-402;TANGUT COMPONENT-403;TANGUT COMPONENT-404
TANGUT COMPONENT-405;TANGUT COMPONENT-406;TANGUT COMPONENT-407;TANGUT COMPONENT-408
TANGUT COMPONENT-409;TANGUT COMPONENT-410;TANGUT COMPONENT-411;TANGUT COMPONENT-412
TANGUT COMPONENT-413;TANGUT COMPONENT-414;TANGUT COMPONENT-415;TANGUT COMPONENT-416
TANGUT COMPONENT-417;TANGUT COMPONENT-418;TANGUT COMPONENT-419;TANGUT COMPONENT-420
TANGUT COMPONENT-421;TANGUT COMPONENT-422;TANGUT COMPONENT-423;TANGUT COMPONENT-424
TANGUT COMPONENT-425;TANGUT COMPONENT-426;TANGUT COMPONENT-427;TANGUT COMPONENT-428
TANGUT COMPONENT-429;TANGUT COMPONENT-430;TANGUT COMPONENT-431;TANGUT COMPONENT-432
TANGUT COMPONENT-433;TANGUT COMPONENT-434;TANGUT COMPONENT-435;TANGUT COMPONENT-436
TANGUT COMPONENT-437;TANGUT COMPONENT-438;TANGUT COMPONENT-439;TANGUT COMPONENT-440
TANGUT COMPONENT-441;TANGUT COMPONENT-442;TANGUT COMPONENT-443;TANGUT COMPONENT-444
TANGUT COMPONENT-445;TANGUT COMPONENT-446;TANGUT COMPONENT-447;TANGUT COMPONENT-448
TANGUT COMPONENT-449;TANGUT COMPONENT-450;TANGUT COMPONENT-451;TANGUT COMPONENT-452
TANGUT COMPONENT-453;TANGUT COMPONENT-454;TANGUT COMPONENT-455;TANGUT COMPONENT-456
TANGUT COMPONENT-457;TANGUT COMPONENT-458;TANGUT COMPONENT-459;TANGUT COMPONENT-460
TANGUT COMPONENT-461;TANGUT COMPONENT-462;TANGUT COMPONENT-463;TANGUT COMPONENT-464
TANGUT COMPONENT-465;TANGUT COMPONENT-466;TANGUT COMPONENT-467;TANGUT COMPONENT-468
TANGUT COMPONENT-469;TANGUT COMPONENT-470;TANGUT COMPONENT-471;TANGUT COMPONENT-472
TANGUT COMPONENT-473;TANGUT COMPONENT-474;TANGUT COMPONENT-475;TANGUT COMPONENT-476
TANGUT COMPONENT-477;TANGUT COMPONENT-478;TANGUT COMPONENT-479;TANGUT COMPONENT-480
TANGUT COMPONENT-481;TANGUT COMPONENT-482;TANGUT COMPONENT-483;TANGUT COMPONENT-484
TANGUT COMPONENT-485;TANGUT COMPONENT-486;TANGUT COMPONENT-487;TANGUT COMPONENT-488
TANGUT COMPONENT-489;TANGUT COMPONENT-490;TANGUT COMPONENT-491;TANGUT COMPONENT-492
TANGUT COMPONENT-493;TANGUT COMPONENT-494;TANGUT COMPONENT-495;TANGUT COMPONENT-496
TANGUT COMPONENT-497;TANGUT COMPONENT-498;TANGUT COMPONENT-499;TANGUT COMPONENT-500
TANGUT COMPONENT-501;TANGUT COMPONENT-502;TANGUT COMPONENT-503;TANGUT COMPONENT-504
TANGUT COMPONENT-505;TANGUT COMPONENT-506;TANGUT COMPONENT-507;TANGUT COMPONENT-508
TANGUT COMPONENT-509;TANGUT COMPONENT-510;TANGUT COMPONENT-511;TANGUT COMPONENT-512
TANGUT COMPONENT-513;TANGUT COMPONENT-514;TANGUT COMPONENT-515;TANGUT COMPONENT-516
TANGUT COMPONENT-517;TANGUT COMPONENT-518;TANGUT COMPONENT-519;TANGUT COMPONENT-520
TANGUT COMPONENT-521;TANGUT COMPONENT-522;TANGUT COMPONENT-523;TANGUT COMPONENT-524
TANGUT COMPONENT-525;TANGUT COMPONENT-526;TANGUT COMPONENT-527;TANGUT COMPONENT-528
TANGUT COMPONENT-529;TANGUT COMPONENT-530;TANGUT COMPONENT-531;TANGUT COMPONENT-532
TANGUT COMPONENT-533;TANGUT COMPONENT-534;TANGUT COMPONENT-535;TANGUT COMPONENT-536
TANGUT COMPONENT-537;TANGUT COMPONENT-538;TANGUT COMPONENT-539;TANGUT COMPONENT-540
TANGUT COMPONENT-541;TANGUT COMPONENT-542;TANGUT COMPONENT-543;TANGUT COMPONENT-544
TANGUT COMPONENT-545;TANGUT COMPONENT-546;TANGUT COMPONENT-547;TANGUT COMPONENT-548
TANGUT COMPONENT-549;TANGUT COMPONENT-550;TANGUT COMPONENT-551;TANGUT COMPONENT-552
TANGUT COMPONENT-553;TANGUT COMPONENT-554;TANGUT COMPONENT-555;TANGUT COMPONENT-556
TANGUT COMPONENT-557;TANGUT COMPONENT-558;TANGUT COMPONENT-559;TANGUT COMPONENT-560
TANGUT COMPONENT-561;TANGUT COMPONENT-562;TANGUT COMPONENT-563;TANGUT COMPONENT-564
TANGUT COMPONENT-565;TANGUT COMPONENT-566;TANGUT COMPONENT-567;TANGUT COMPONENT-568
TANGUT COMPONENT-569;TANGUT COMPONENT-570;TANGUT COMPONENT-571;TANGUT COMPONENT-572
TANGUT COMPONENT-573;TANGUT COMPONENT-574;TANGUT COMPONENT-575;TANGUT COMPONENT-576
TANGUT COMPONENT-577;TANGUT COMPONENT-578;TANGUT COMPONENT-579;TANGUT COMPONENT-580
TANGUT COMPONENT-581;TANGUT COMPONENT-582;TANGUT COMPONENT-583;TANGUT COMPONENT-584
TANGUT COMPONENT-585;TANGUT COMPONENT-586;TANGUT COMPONENT-587;TANGUT COMPONENT-588
TANGUT COMPONENT-589;TANGUT COMPONENT-590;TANGUT COMPONENT-591;TANGUT COMPONENT-592
TANGUT COMPONENT-593;TANGUT COMPONENT-594;TANGUT COMPONENT-595;TANGUT COMPONENT-596
TANGUT COMPONENT-597;TANGUT COMPONENT-598;TANGUT COMPONENT-599;TANGUT COMPONENT-600
TANGUT COMPONENT-601;TANGUT COMPONENT-602;TANGUT COMPONENT-603;TANGUT COMPONENT-604
TANGUT COMPONENT-605;TANGUT COMPONENT-606;TANGUT COMPONENT-607;TANGUT COMPONENT-608
TANGUT COMPONENT-609;TANGUT COMPONENT-610;TANGUT COMPONENT-611;TANGUT COMPONENT-612
TANGUT COMPONENT-613;TANGUT COMPONENT-614;TANGUT COMPONENT-615;TANGUT COMPONENT-616
TANGUT COMPONENT-617;TANGUT COMPONENT-618;TANGUT COMPONENT-619;TANGUT COMPONENT-620
TANGUT COMPONENT-621;TANGUT COMPONENT-622;TANGUT COMPONENT-623;TANGUT COMPONENT-624
TANGUT COMPONENT-625;TANGUT COMPONENT-626;TANGUT COMPONENT-627;TANGUT COMPONENT-628
TANGUT COMPONENT-629;TANGUT COMPONENT-630;TANGUT COMPONENT-631;TANGUT COMPONENT-632
TANGUT COMPONENT-633;TANGUT COMPONENT-634;TANGUT COMPONENT-635;TANGUT COMPONENT-636
TANGUT COMPONENT-637;TANGUT COMPONENT-638;TANGUT COMPONENT-639;TANGUT COMPONENT-640
TANGUT COMPONENT-641;TANGUT COMPONENT-642;TANGUT COMPONENT-643;TANGUT COMPONENT-644
TANGUT COMPONENT-645;TANGUT COMPONENT-646;TANGUT COMPONENT-647;TANGUT COMPONENT-648
TANGUT COMPONENT-649;TANGUT COMPONENT-650;TANGUT COMPONENT-651;TANGUT COMPONENT-652
TANGUT COMPONENT-653;TANGUT COMPONENT-654;TANGUT COMPONENT-655;TANGUT COMPONENT-656
TANGUT COMPONENT-657;TANGUT COMPONENT-658;TANGUT COMPONENT-659;TANGUT COMPONENT-660
TANGUT COMPONENT-661;TANGUT COMPONENT-662;TANGUT COMPONENT-663;TANGUT COMPONENT-664
TANGUT COMPONENT-665;TANGUT COMPONENT-666;TANGUT COMPONENT-667;TANGUT COMPONENT-668
TANGUT COMPONENT-669;TANGUT COMPONENT-670;TANGUT COMPONENT-671;TANGUT COMPONENT-672
TANGUT COMPONENT-673;TANGUT COMPONENT-674;TANGUT COMPONENT-675;TANGUT COMPONENT-676
TANGUT COMPONENT-677;TANGUT COMPONENT-678;TANGUT COMPONENT-679;TANGUT COMPONENT-680
TANGUT COMPONENT-681;TANGUT COMPONENT-682;TANGUT COMPONENT-683;TANGUT COMPONENT-684
TANGUT COMPONENT-685;TANGUT COMPONENT-686;TANGUT COMPONENT-687;TANGUT COMPONENT-688
TANGUT COMPONENT-689;TANGUT COMPONENT-690;TANGUT COMPONENT-691;TANGUT COMPONENT-692
TANGUT COMPONENT-693;TANGUT COMPONENT-694;TANGUT COMPONENT-695;TANGUT COMPONENT-696
TANGUT COMPONENT-697;TANGUT COMPONENT-698;TANGUT COMPONENT-699;TANGUT COMPONENT-700
TANGUT COMPONENT-701;TANGUT COMPONENT-702;TANGUT COMPONENT-703;TANGUT COMPONENT-704
TANGUT COMPONENT-705;TANGUT COMPONENT-706;TANGUT COMPONENT-707;TANGUT COMPONENT-708
TANGUT COMPONENT-709;TANGUT COMPONENT-710;TANGUT COMPONENT-711;TANGUT COMPONENT-712
TANGUT COMPONENT-713;TANGUT COMPONENT-714;TANGUT COMPONENT-715;TANGUT COMPONENT-716
TANGUT COMPONENT-717;TANGUT COMPONENT-718;TANGUT COMPONENT-719;TANGUT COMPONENT-720
TANGUT COMPONENT-721;TANGUT COMPONENT-722;TANGUT COMPONENT-723;TANGUT COMPONENT-724
TANGUT COMPONENT-725;TANGUT COMPONENT-726;TANGUT COMPONENT-727;TANGUT COMPONENT-728
TANGUT COMPONENT-729;TANGUT COMPONENT-730;TANGUT COMPONENT-731;TANGUT COMPONENT-732
TANGUT COMPONENT-733;TANGUT COMPONENT-734;TANGUT COMPONENT-735;TANGUT COMPONENT-736
TANGUT COMPONENT-737;TANGUT COMPONENT-738;TANGUT COMPONENT-739;TANGUT COMPONENT-740
TANGUT COMPONENT-741;TANGUT COMPONENT-742;TANGUT COMPONENT-743;TANGUT COMPONENT-744
TANGUT COMPONENT-745;TANGUT COMPONENT-746;TANGUT COMPONENT-747;TANGUT COMPONENT-748
TANGUT COMPONENT-749;TANGUT COMPONENT-750;TANGUT COMPONENT-751;TANGUT COMPONENT-752
TANGUT COMPONENT-753;TANGUT COMPONENT-754;TANGUT COMPONENT-755;TANGUT COMPONENT-756
TANGUT COMPONENT-757;TANGUT COMPONENT-758;TANGUT COMPONENT-759;TANGUT COMPONENT-760
TANGUT COMPONENT-761;TANGUT COMPONENT-762;TANGUT COMPONENT-763;TANGUT COMPONENT-764
TANGUT COMPONENT-765;TANGUT COMPONENT-766;TANGUT COMPONENT-767;TANGUT COMPONENT-768"),
  (0x1aff0, "KATAKANA LETTER MINNAN TONE-2;KATAKANA LETTER MINNAN TONE-3
KATAKANA LETTER MINNAN TONE-4;KATAKANA LETTER MINNAN TONE-5"),
  (0x1aff5, "KATAKANA LETTER MINNAN TONE-7;KATAKANA LETTER MINNAN TONE-8
KATAKANA LETTER MINNAN NASALIZED TONE-1;KATAKANA LETTER MINNAN NASALIZED TONE-2
KATAKANA LETTER MINNAN NASALIZED TONE-3;KATAKANA LETTER MINNAN NASALIZED TONE-4
KATAKANA LETTER MINNAN NASALIZED TONE-5"),
  (0x1affd, "KATAKANA LETTER MINNAN NASALIZED TONE-7;KATAKANA LETTER MINNAN NASALIZED TONE-8")]

end UrlRouting.Text
